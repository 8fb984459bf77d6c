import OppoA37.Gps.LinkedList

/-!
# AGPS subscribers and their notifications

The data model of `loc_eng_agps.h`: the resource events, the `Notification`
bundle, and the `Subscriber` classes with their virtual functions. A state
machine never looks inside a subscriber; it only calls the virtual functions,
so they are a class `SubscriberOps` here and the machine is generic in the type
of its subscribers.

Two types implement it. `Subscriber` is the union of the three classes a base
`AgpsStateMachine` can hold (BIT, ATL, WIFI; the message handlers do mix BIT and
ATL on one machine), `DSSubscriber` the one class of a `DSStateMachine`.
-/

namespace OppoA37.Agps

/-- NIF resource events. -/
inductive AgpsRsrcStatus where
  | rsrcSubscribe
  | rsrcUnsubscribe
  | rsrcGranted
  | rsrcReleased
  | rsrcDenied
  | rsrcStatusMax
  deriving DecidableEq, Repr

/-- The broadcast half of a `Notification`: `-1`, or one of the three constants. -/
inductive GroupID where
  /-- `-1`: not a broadcast -/
  | none
  | broadcastAll
  | broadcastActive
  | broadcastInactive
  deriving DecidableEq, Repr

/-- Information bundle for subscribers. `rcver` is a pointer in the source; the
model keeps the object it points to when the bundle is built. -/
structure Notification (σ : Type) where
  /-- go to a specific subscriber -/
  rcver : Option σ
  /-- broadcast -/
  groupID : GroupID
  /-- the new resource status event -/
  rsrcStatus : AgpsRsrcStatus
  /-- should the subscriber be deleted after the notification -/
  postNotifyDelete : Bool

namespace Notification

variable {σ : Type}

/-- The constructor for broadcasts. -/
def broadcast (group : GroupID) (status : AgpsRsrcStatus) (deleteAfterwards : Bool) :
    Notification σ := ⟨none, group, status, deleteAfterwards⟩

/-- The constructor for one receiver. -/
def addressed (subscriber : σ) (status : AgpsRsrcStatus) (deleteAfterwards : Bool) :
    Notification σ :=
  ⟨some subscriber, .none, status, deleteAfterwards⟩

/-- The constructors with a group or a receiver only: nothing to tell, just a
pattern for searches. -/
def pattern (group : GroupID) : Notification σ := broadcast group .rsrcStatusMax false

@[inherit_doc pattern]
def patternTo (subscriber : σ) : Notification σ := addressed subscriber .rsrcStatusMax false

end Notification

/-- The virtual functions of `Subscriber` that read or change the object only. -/
class SubscriberOps (σ : Type) where
  /-- `this->equals(s)` -/
  equals : σ → σ → Bool
  /-- does an unsubscribe wait for the close to complete? -/
  waitForCloseComplete : σ → Bool
  /-- is the subscriber only waiting for its close? -/
  isInactive : σ → Bool
  /-- the object after `setInactive` -/
  setInactive : σ → σ
  /-- a new object for the list -/
  clone : σ → σ

export SubscriberOps (equals waitForCloseComplete isInactive setInactive clone)

section ForMe

variable {σ : Type} [SubscriberOps σ]

/-- `Subscriber::forMe`: the notification either has my id, or a broadcast id that
covers me. -/
def forMe (notification : Notification σ) (this : σ) : Bool :=
  match notification.rcver with
  | some rcver => equals this rcver
  | none =>
    match notification.groupID with
    | .broadcastAll => true
    | .broadcastActive => !isInactive this
    | .broadcastInactive => isInactive this
    | .none => false

@[simp] theorem forMe_addressed (s this : σ) (status : AgpsRsrcStatus) (del : Bool) :
    forMe (.addressed s status del) this = equals this s := rfl

@[simp] theorem forMe_patternTo (s this : σ) : forMe (.patternTo s) this = equals this s := rfl

@[simp] theorem forMe_broadcastAll (this : σ) (status : AgpsRsrcStatus) (del : Bool) :
    forMe (.broadcast .broadcastAll status del) this = true := rfl

@[simp] theorem forMe_broadcastActive (this : σ) (status : AgpsRsrcStatus) (del : Bool) :
    forMe (.broadcast .broadcastActive status del) this = !isInactive this := rfl

@[simp] theorem forMe_broadcastInactive (this : σ) (status : AgpsRsrcStatus) (del : Bool) :
    forMe (.broadcast .broadcastInactive status del) this = isInactive this := rfl

@[simp] theorem forMe_patternActive (this : σ) :
    forMe (.pattern .broadcastActive) this = !isInactive this := rfl

/-- The events that `notifyRsrcStatus` tells its client about; the `default` branch
of every class answers `false` to the others. -/
def AgpsRsrcStatus.isTold : AgpsRsrcStatus → Bool
  | .rsrcUnsubscribe | .rsrcReleased | .rsrcDenied | .rsrcGranted => true
  | .rsrcSubscribe | .rsrcStatusMax => false

/-- The frame that the `notifyRsrcStatus` of every class shares: a notification that
is for me and has something to tell is told by `inform`, the class's own table. -/
def notifyRsrcStatus {W : Type} (inform : σ → AgpsRsrcStatus → W → W)
    (notification : Notification σ) (this : σ) (w : W) : Bool × W :=
  if forMe notification this && notification.rsrcStatus.isTold then
    (true, inform this notification.rsrcStatus w)
  else (false, w)

theorem notifyRsrcStatus_fst {W : Type} (inform : σ → AgpsRsrcStatus → W → W)
    (n : Notification σ) (this : σ) (w : W) :
    (notifyRsrcStatus inform n this w).1 = (forMe n this && n.rsrcStatus.isTold) := by
  unfold notifyRsrcStatus
  split <;> simp_all

end ForMe

/-! ## BIT, ATL and WIFI subscribers -/

/-- The bytes of a C string in front of its terminator. -/
abbrev CString : Type := List UInt8

/-- `SSID_BUF_SIZE` -/
def ssidBufSize : ℕ := 32 + 1

/-- `strlcpy` into a buffer of the given size. -/
def strlcpy (src : CString) (size : ℕ) : CString := src.take (size - 1)

/-- `strncmp`: the difference of the first bytes that differ, up to a terminator
or `n` bytes. -/
def strncmp : List UInt8 → List UInt8 → ℕ → ℤ
  | a :: as, b :: bs, n + 1 =>
    if a ≠ b then (a.toNat : ℤ) - b.toNat else if a = 0 then 0 else strncmp as bs n
  | _, _, _ => 0

theorem strncmp_self (as : List UInt8) (n : ℕ) : strncmp as as n = 0 := by
  induction as generalizing n with
  | nil => simp [strncmp]
  | cons a as ih => cases n <;> simp [strncmp, ih]

theorem strncmp_swap (as bs : List UInt8) (n : ℕ) : strncmp bs as n = -strncmp as bs n := by
  induction as generalizing bs n with
  | nil => cases bs <;> simp [strncmp]
  | cons a as ih =>
    rcases bs with _ | ⟨b, bs⟩
    · simp [strncmp]
    · cases n with
      | zero => simp [strncmp]
      | succ n =>
        by_cases hab : a = b
        · subst hab
          simp only [strncmp, ne_eq, not_true_eq_false, if_false]
          split
          · rfl
          · exact ih bs n
        · simp only [strncmp, ne_eq, hab, Ne.symm hab, not_false_eq_true, if_true]
          omega

/-- `INADDR_NONE` -/
def inaddrNone : UInt32 := 0xffffffff

/-- What the three classes add to `Subscriber`. The `senderId` of a WIFI subscriber
is its `ID`: the constructor sets both from one argument. -/
inductive SubscriberClass where
  | bitSubscriber
  | atlSubscriber (mBackwardCompatibleMode : Bool)
  | wifiSubscriber (mSSID mPassword : Option CString) (mIsInactive : Bool)
  deriving DecidableEq, Repr

/-- A subscriber of a base `AgpsStateMachine`. -/
structure Subscriber where
  /-- the IPv4 address of a BIT client, the connection handle of an ATL client, the
  sender id of a WIFI client -/
  ID : UInt32
  /-- `mIPv6Addr`; for the other classes the sixteen bytes that the cast in
  `BITSubscriber::equals` would read in its place -/
  mIPv6Addr : Vector UInt8 16
  /-- the dynamic class, with its members -/
  dynClass : SubscriberClass
  deriving DecidableEq, Repr

/-- Which of the three classes a subscriber belongs to. -/
inductive ClassName where
  | bit
  | atl
  | wifi
  deriving DecidableEq, Repr

namespace Subscriber

/-- The name of the dynamic class. -/
def className (s : Subscriber) : ClassName :=
  match s.dynClass with
  | .bitSubscriber => .bit
  | .atlSubscriber _ => .atl
  | .wifiSubscriber _ _ _ => .wifi

/-- `equals`: `Subscriber::equals` compares the ids, `BITSubscriber::equals` also the
IPv6 addresses when the id says there is no IPv4 address. -/
def equals (this s : Subscriber) : Bool :=
  match this.dynClass with
  | .bitSubscriber =>
    this.ID == s.ID && (inaddrNone != this.ID ||
      0 == strncmp this.mIPv6Addr.toList s.mIPv6Addr.toList 16)
  | _ => this.ID == s.ID

/-- Only `WIFISubscriber` overrides `waitForCloseComplete`. -/
def waitForCloseComplete (s : Subscriber) : Bool :=
  match s.dynClass with
  | .wifiSubscriber _ _ _ => true
  | _ => false

/-- Only `WIFISubscriber` overrides `isInactive`. -/
def isInactive (s : Subscriber) : Bool :=
  match s.dynClass with
  | .wifiSubscriber _ _ mIsInactive => mIsInactive
  | _ => false

/-- Only `WIFISubscriber` overrides `setInactive`. -/
def setInactive (s : Subscriber) : Subscriber :=
  match s.dynClass with
  | .wifiSubscriber mSSID mPassword _ =>
    { s with dynClass := .wifiSubscriber mSSID mPassword true }
  | _ => s

/-- `clone`: the constructor is called again, so a WIFI clone starts active. -/
def clone (s : Subscriber) : Subscriber :=
  match s.dynClass with
  | .wifiSubscriber mSSID mPassword _ =>
    let copy (text : Option CString) := text.map (strlcpy · ssidBufSize)
    { s with dynClass := .wifiSubscriber (copy mSSID) (copy mPassword) false }
  | _ => s

/-- `setWifiInfo`: the ssid and the password written into a request. -/
def setWifiInfo (s : Subscriber) : CString × CString :=
  match s.dynClass with
  | .wifiSubscriber mSSID mPassword _ =>
    let copy (text : Option CString) := (text.map (strlcpy · ssidBufSize)).getD []
    (copy mSSID, copy mPassword)
  | _ => ([], [])

instance : SubscriberOps Subscriber where
  equals := equals
  waitForCloseComplete := waitForCloseComplete
  isInactive := isInactive
  setInactive := setInactive
  clone := clone

end Subscriber

/-! ## DS subscribers -/

/-- A subscriber of a `DSStateMachine`: an emergency connection of the modem. -/
structure DSSubscriber where
  /-- the connection handle -/
  ID : UInt32
  mIsInactive : Bool
  deriving DecidableEq, Repr

instance : SubscriberOps DSSubscriber where
  equals this s := this.ID == s.ID
  waitForCloseComplete _ := true
  isInactive s := s.mIsInactive
  setInactive s := { s with mIsInactive := true }
  clone s := { s with mIsInactive := false }

/-! ## The laws the state machines rely on -/

/-- What every class of subscribers guarantees about its virtual functions. -/
class LawfulSubscriber (σ : Type) [SubscriberOps σ] : Prop where
  /-- an object equals itself -/
  equals_refl : ∀ s : σ, equals s s = true
  /-- a clone equals what the original equals -/
  equals_clone_left : ∀ a b : σ, equals (clone a) b = equals a b
  /-- and is equalled by what equals the original -/
  equals_clone_right : ∀ a b : σ, equals a (clone b) = equals a b
  /-- becoming inactive does not change the identity -/
  equals_setInactive_left : ∀ a b : σ, equals (setInactive a) b = equals a b
  /-- on either side -/
  equals_setInactive_right : ∀ a b : σ, equals a (setInactive b) = equals a b
  /-- a clone is active -/
  isInactive_clone : ∀ s : σ, isInactive (clone s) = false
  /-- a class that waits for its close does become inactive -/
  isInactive_setInactive :
    ∀ s : σ, waitForCloseComplete s = true → isInactive (setInactive s) = true
  /-- only a class that waits for its close has inactive objects -/
  waits_of_isInactive : ∀ s : σ, isInactive s = true → waitForCloseComplete s = true

attribute [simp] LawfulSubscriber.equals_refl LawfulSubscriber.equals_clone_left
  LawfulSubscriber.equals_clone_right LawfulSubscriber.equals_setInactive_left
  LawfulSubscriber.equals_setInactive_right LawfulSubscriber.isInactive_clone

namespace Subscriber

@[simp] theorem ID_setInactive (s : Subscriber) : s.setInactive.ID = s.ID := by
  rcases s with ⟨id, ip, _ | _ | _⟩ <;> rfl

@[simp] theorem ID_clone (s : Subscriber) : s.clone.ID = s.ID := by
  rcases s with ⟨id, ip, _ | _ | _⟩ <;> rfl

@[simp] theorem mIPv6Addr_setInactive (s : Subscriber) :
    s.setInactive.mIPv6Addr = s.mIPv6Addr := by
  rcases s with ⟨id, ip, _ | _ | _⟩ <;> rfl

@[simp] theorem mIPv6Addr_clone (s : Subscriber) : s.clone.mIPv6Addr = s.mIPv6Addr := by
  rcases s with ⟨id, ip, _ | _ | _⟩ <;> rfl

@[simp] theorem className_setInactive (s : Subscriber) : s.setInactive.className = s.className := by
  rcases s with ⟨id, ip, _ | _ | _⟩ <;> rfl

@[simp] theorem className_clone (s : Subscriber) : s.clone.className = s.className := by
  rcases s with ⟨id, ip, _ | _ | _⟩ <;> rfl

/-- Equality of two subscribers, by the class of the one that is asked. -/
theorem equals_eq (a b : Subscriber) : equals a b = if a.className = .bit then
    a.ID == b.ID && (inaddrNone != a.ID || 0 == strncmp a.mIPv6Addr.toList b.mIPv6Addr.toList 16)
    else a.ID == b.ID := by
  rcases a with ⟨id, ip, _ | _ | _⟩ <;> rfl

/-- Within one class equality is symmetric. -/
theorem equals_comm {a b : Subscriber} (h : a.className = b.className) :
    equals a b = equals b a := by
  rw [equals_eq, equals_eq, ← h]
  by_cases hid : a.ID = b.ID
  · have hcmp : (0 == strncmp a.mIPv6Addr.toList b.mIPv6Addr.toList 16) =
        (0 == strncmp b.mIPv6Addr.toList a.mIPv6Addr.toList 16) := by
      rw [strncmp_swap a.mIPv6Addr.toList, Bool.eq_iff_iff, beq_iff_eq, beq_iff_eq]
      omega
    rw [hid, hcmp]
  · have h₁ : (a.ID == b.ID) = false := beq_false_of_ne hid
    have h₂ : (b.ID == a.ID) = false := beq_false_of_ne (Ne.symm hid)
    rw [h₁, h₂]
    simp

instance : LawfulSubscriber Subscriber where
  equals_refl s := by
    change Subscriber.equals s s = true
    rw [equals_eq]
    simp [strncmp_self]
  equals_clone_left a b := by
    change Subscriber.equals a.clone b = Subscriber.equals a b
    simp [equals_eq]
  equals_clone_right a b := by
    change Subscriber.equals a b.clone = Subscriber.equals a b
    simp [equals_eq]
  equals_setInactive_left a b := by
    change Subscriber.equals a.setInactive b = Subscriber.equals a b
    simp [equals_eq]
  equals_setInactive_right a b := by
    change Subscriber.equals a b.setInactive = Subscriber.equals a b
    simp [equals_eq]
  isInactive_clone s := by rcases s with ⟨id, ip, _ | _ | _⟩ <;> rfl
  isInactive_setInactive s hw := by
    rcases s with ⟨id, ip, _ | _ | _⟩
    · cases hw
    · cases hw
    · rfl
  waits_of_isInactive s hi := by
    rcases s with ⟨id, ip, _ | _ | _⟩
    · cases hi
    · cases hi
    · rfl

end Subscriber

instance : LawfulSubscriber DSSubscriber where
  equals_refl _ := beq_self_eq_true _
  equals_clone_left _ _ := rfl
  equals_clone_right _ _ := rfl
  equals_setInactive_left _ _ := rfl
  equals_setInactive_right _ _ := rfl
  isInactive_clone _ := rfl
  isInactive_setInactive _ _ := rfl
  waits_of_isInactive _ _ := rfl

end OppoA37.Agps
