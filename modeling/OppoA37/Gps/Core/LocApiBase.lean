import OppoA37.Lib.FrontArray
import OppoA37.Lib.Monitor

/-!
# The adapters of a `LocApiBase`

A `LocApiBase` keeps the adapters it serves in an array of `MAX_ADAPTERS` pointers. Every
event is dispatched by a loop over the array that stops at the first `NULL`, so an adapter
behind a hole would hear nothing. The module has the two functions that change the array,
the loops that read it, and what holds in every run of them:

* the array is filled from the front, by a list without duplicates;
* the list has the adapters that were added and not removed, as long as they all fit;
* a removal that empties the array calls `close()`, and nothing else does;
* `getEvtMask` is what the adapters of the list ask for, less the excluded events.
-/

namespace OppoA37.LocCore

open Lts FrontArray

/-- `LOC_API_ADAPTER_EVENT_MASK_T`. -/
abbrev EventMask : Type := BitVec 32

/-- `LocDualContext::mFgExclMask`: nothing is excluded for the foreground. -/
def mFgExclMask : EventMask := 0

/-- `LocDualContext::mBgExclMask`: the events excluded for background clients. -/
def mBgExclMask : EventMask :=
  1 <<< 0 ||| -- LOC_API_ADAPTER_BIT_PARSED_POSITION_REPORT
  1 <<< 1 ||| -- LOC_API_ADAPTER_BIT_SATELLITE_REPORT
  1 <<< 2 ||| -- LOC_API_ADAPTER_BIT_NMEA_1HZ_REPORT
  1 <<< 3 ||| -- LOC_API_ADAPTER_BIT_NMEA_POSITION_REPORT
  1 <<< 7 ||| -- LOC_API_ADAPTER_BIT_IOCTL_REPORT
  1 <<< 8 ||| -- LOC_API_ADAPTER_BIT_STATUS_REPORT
  1 <<< 14 ||| -- LOC_API_ADAPTER_BIT_GEOFENCE_GEN_ALERT
  1 <<< 24 -- LOC_API_ADAPTER_BIT_GNSS_MEASUREMENT

/-- The size of the array. -/
def MAX_ADAPTERS : ℕ := 10

/-- What a `LocApiBase` does outside its array. -/
inductive Output where
  /-- it calls its own `close()` -/
  | close
  /-- it sends itself a `LocOpenMsg` -/
  | sendOpen (mMask : EventMask)
  deriving DecidableEq, Repr

/-- `LocApiBase`. An empty cell is `NULL`. -/
structure LocApiBase (Adapter : Type*) where
  /-- the array -/
  mLocAdapters : Fin MAX_ADAPTERS → Option Adapter
  /-- the events that no adapter of this object gets -/
  mExcludedMask : EventMask

namespace LocApiBase

variable {Adapter : Type*}

/-- `TO_ALL_ADAPTERS` from a cell on: the adapters that are called, in order. -/
def adaptersFrom (this : LocApiBase Adapter) (i : ℕ) : List Adapter :=
  if h : i < MAX_ADAPTERS then
    match this.mLocAdapters ⟨i, h⟩ with
    | none => []
    | some adapter => adapter :: this.adaptersFrom (i + 1)
  else []
termination_by MAX_ADAPTERS - i

/-- `TO_ALL_LOCADAPTERS`: the adapters that are called, in order. -/
def toAllLocAdapters (this : LocApiBase Adapter) : List Adapter := this.adaptersFrom 0

/-- `LocApiBase::getEvtMask`. -/
def getEvtMask (evtMask : Adapter → EventMask) (this : LocApiBase Adapter) : EventMask :=
  this.toAllLocAdapters.foldl (fun mask adapter => mask ||| evtMask adapter) 0 &&&
    ~~~this.mExcludedMask

/-- `while (++i < MAX_ADAPTERS && mLocAdapters[i] != NULL);` from `i + 1` on: the first
cell that is `NULL`, or `MAX_ADAPTERS`. -/
def firstNull (cells : Fin MAX_ADAPTERS → Option Adapter) (i : ℕ) : ℕ :=
  if h : i < MAX_ADAPTERS then
    if cells ⟨i, h⟩ = none then i else firstNull cells (i + 1)
  else i
termination_by MAX_ADAPTERS - i

/-- The scan never goes back. -/
theorem le_firstNull (cells : Fin MAX_ADAPTERS → Option Adapter) (i : ℕ) :
    i ≤ firstNull cells i := by
  induction i using firstNull.induct cells with
  | case1 i h hnull => rw [firstNull, dif_pos h, if_pos hnull]
  | case2 i h hnull ih =>
    rw [firstNull, dif_pos h, if_neg hnull]
    exact Nat.le_of_succ_le ih
  | case3 i h => rw [firstNull, dif_neg h]

/-- The scan stops at the end of the array. -/
theorem firstNull_le (cells : Fin MAX_ADAPTERS → Option Adapter) (i : ℕ)
    (hi : i ≤ MAX_ADAPTERS) : firstNull cells i ≤ MAX_ADAPTERS := by
  induction i using firstNull.induct cells with
  | case1 i h hnull =>
    rw [firstNull, dif_pos h, if_pos hnull]
    exact hi
  | case2 i h hnull ih =>
    rw [firstNull, dif_pos h, if_neg hnull]
    exact ih h
  | case3 i h =>
    rw [firstNull, dif_neg h]
    exact hi

/-- `i` after the scan for the end of the adapters behind a hole, and `i--`. -/
def lastBehind (cells : Fin MAX_ADAPTERS → Option Adapter) (j : Fin MAX_ADAPTERS) :
    Fin MAX_ADAPTERS :=
  ⟨firstNull cells (j + 1) - 1, by
    have hge := le_firstNull cells (j + 1)
    have hle := firstNull_le cells (j + 1) j.isLt
    omega⟩

theorem le_lastBehind (cells : Fin MAX_ADAPTERS → Option Adapter) (j : Fin MAX_ADAPTERS) :
    j.val ≤ lastBehind cells j :=
  Nat.le_sub_one_of_lt (le_firstNull cells (j + 1))

/-- The body of the loop in `LocApiBase::removeAdapter`, in the cell of the adapter that is
removed. -/
def shiftUp (evtMask : Adapter → EventMask) (this : LocApiBase Adapter)
    (j : Fin MAX_ADAPTERS) : LocApiBase Adapter × List Output :=
  let holed := Function.update this.mLocAdapters j none
  let i := lastBehind holed j
  let moved := Function.update holed j (holed i)
  let this' := { this with mLocAdapters := Function.update moved i none }
  (this', if i.val = 0 then [.close] else [.sendOpen (this'.getEvtMask evtMask)])

variable [DecidableEq Adapter]

/-- `LocApiBase::addAdapter` from a cell on. -/
def addAdapterFrom (evtMask : Adapter → EventMask) (adapter : Adapter)
    (this : LocApiBase Adapter) (i : ℕ) : LocApiBase Adapter × List Output :=
  if h : i < MAX_ADAPTERS then
    if this.mLocAdapters ⟨i, h⟩ = some adapter then (this, [])
    else if this.mLocAdapters ⟨i, h⟩ = none then
      ({ this with mLocAdapters := Function.update this.mLocAdapters ⟨i, h⟩ (some adapter) },
        [.sendOpen (evtMask adapter)])
    else this.addAdapterFrom evtMask adapter (i + 1)
  else (this, [])
termination_by MAX_ADAPTERS - i

/-- `LocApiBase::addAdapter`. -/
def addAdapter (evtMask : Adapter → EventMask) (this : LocApiBase Adapter)
    (adapter : Adapter) : LocApiBase Adapter × List Output :=
  this.addAdapterFrom evtMask adapter 0

/-- `LocApiBase::removeAdapter` from a cell on. The body moves `i` on to the last adapter,
so the loop goes on behind that one. -/
def removeAdapterFrom (evtMask : Adapter → EventMask) (adapter : Adapter)
    (this : LocApiBase Adapter) (i : ℕ) : LocApiBase Adapter × List Output :=
  if h : i < MAX_ADAPTERS then
    if this.mLocAdapters ⟨i, h⟩ = none then (this, [])
    else if this.mLocAdapters ⟨i, h⟩ = some adapter then
      let last := lastBehind (Function.update this.mLocAdapters ⟨i, h⟩ none) ⟨i, h⟩
      let shifted := this.shiftUp evtMask ⟨i, h⟩
      let rest := shifted.1.removeAdapterFrom evtMask adapter (last + 1)
      (rest.1, shifted.2 ++ rest.2)
    else this.removeAdapterFrom evtMask adapter (i + 1)
  else (this, [])
termination_by MAX_ADAPTERS - i
decreasing_by
  · have hle := le_lastBehind (Function.update this.mLocAdapters ⟨i, h⟩ none) ⟨i, h⟩
    simp only at hle
    omega
  · omega

/-- `LocApiBase::removeAdapter`. -/
def removeAdapter (evtMask : Adapter → EventMask) (this : LocApiBase Adapter)
    (adapter : Adapter) : LocApiBase Adapter × List Output :=
  this.removeAdapterFrom evtMask adapter 0

end LocApiBase

/-! ## The loops on an array that is filled from the front -/

namespace LocApiBase

variable {Adapter : Type*} {this : LocApiBase Adapter} {l xs zs : List Adapter}
  {adapter : Adapter}

/-- A dispatch loop calls the adapters of the list, in order. -/
theorem adaptersFrom_eq (h : Filled this.mLocAdapters l) (i : ℕ) :
    this.adaptersFrom i = l.drop i := by
  induction i using adaptersFrom.induct this with
  | case1 i hi hnull =>
    rw [adaptersFrom, dif_pos hi, hnull]
    exact (List.drop_eq_nil_of_le ((h.cell_eq_none ⟨i, hi⟩).mp hnull)).symm
  | case2 i hi a hcell ih =>
    rw [adaptersFrom, dif_pos hi, hcell]
    rw [h.cell] at hcell
    obtain ⟨hlt, rfl⟩ := List.getElem?_eq_some_iff.mp hcell
    rw [List.drop_eq_getElem_cons hlt, ← ih]
  | case3 i hi =>
    rw [adaptersFrom, dif_neg hi]
    exact (List.drop_eq_nil_of_le (h.length_le.trans (Nat.not_lt.mp hi))).symm

theorem toAllLocAdapters_eq (h : Filled this.mLocAdapters l) : this.toAllLocAdapters = l :=
  adaptersFrom_eq h 0

/-- A bit of a mask that is put together by a loop. -/
theorem getLsbD_foldl_or (evtMask : Adapter → EventMask) (l : List Adapter) (mask : EventMask)
    (b : ℕ) : (l.foldl (fun mask a => mask ||| evtMask a) mask).getLsbD b = true ↔
      mask.getLsbD b = true ∨ ∃ a ∈ l, (evtMask a).getLsbD b = true := by
  induction l generalizing mask with
  | nil => simp
  | cons a l ih =>
    rw [List.foldl_cons, ih, BitVec.getLsbD_or, Bool.or_eq_true, or_assoc]
    simp

/-- A bit of the mask: an adapter asks for the event, and the event is not excluded. -/
theorem getLsbD_getEvtMask (h : Filled this.mLocAdapters l) (evtMask : Adapter → EventMask)
    {b : ℕ} (hb : b < 32) : (this.getEvtMask evtMask).getLsbD b = true ↔
      (∃ a ∈ l, (evtMask a).getLsbD b = true) ∧ this.mExcludedMask.getLsbD b = false := by
  rw [getEvtMask, toAllLocAdapters_eq h, BitVec.getLsbD_and, Bool.and_eq_true,
    getLsbD_foldl_or, BitVec.getLsbD_not]
  simp [hb]

/-- Behind a hole the scan ends where the list does. -/
theorem firstNull_eq (h : Filled this.mLocAdapters l) {j : Fin MAX_ADAPTERS} (i : ℕ)
    (hji : j < i) (hi : i ≤ l.length) :
    firstNull (Function.update this.mLocAdapters j none) i = l.length := by
  have hcell (k : ℕ) (hk : k < MAX_ADAPTERS) (hjk : j.val < k) :
      Function.update this.mLocAdapters j none ⟨k, hk⟩ = l[k]? := by
    rw [Function.update_of_ne fun heq => Nat.ne_of_gt hjk (congrArg Fin.val heq), h.cell]
  induction i using firstNull.induct (Function.update this.mLocAdapters j none) with
  | case1 i hlt hnull =>
    rw [firstNull, dif_pos hlt, if_pos hnull]
    rw [hcell i hlt hji, List.getElem?_eq_none_iff] at hnull
    exact le_antisymm hi hnull
  | case2 i hlt hnull ih =>
    rw [firstNull, dif_pos hlt, if_neg hnull]
    rw [hcell i hlt hji, List.getElem?_eq_none_iff, not_le] at hnull
    exact ih (Nat.lt_succ_of_lt hji) hnull
  | case3 i hlt =>
    rw [firstNull, dif_neg hlt]
    exact le_antisymm hi (h.length_le.trans (Nat.not_lt.mp hlt))

/-- The last adapter is the last one of the list. -/
theorem lastBehind_eq (h : Filled this.mLocAdapters (xs ++ adapter :: zs))
    {j : Fin MAX_ADAPTERS} (hj : j.val = xs.length) :
    (lastBehind (Function.update this.mLocAdapters j none) j).val = xs.length + zs.length := by
  have hlen : (xs ++ adapter :: zs).length = xs.length + zs.length + 1 := by
    rw [List.length_append, List.length_cons, Nat.add_assoc]
  have hfirst := firstNull_eq h (j := j) (j + 1) (Nat.lt_succ_self j) (by omega)
  rw [lastBehind]
  simp only [hfirst, hlen]
  rfl

/-- The body of the removal takes the adapter out, and the array stays filled. -/
theorem filled_shiftUp (h : Filled this.mLocAdapters (xs ++ adapter :: zs))
    (evtMask : Adapter → EventMask) {j : Fin MAX_ADAPTERS} (hj : j.val = xs.length) :
    Filled (this.shiftUp evtMask j).1.mLocAdapters (xs ++ lastFirst zs) := by
  have hlast := lastBehind_eq h hj
  have hfilled := h.swapRemove hj hlast
  -- the hole itself is the last adapter, or the last adapter is not in the hole
  by_cases hji : lastBehind (Function.update this.mLocAdapters j none) j = j
  · rw [hji] at hfilled
    simp only [shiftUp, hji]
    rw [Function.update_idem] at hfilled
    rwa [Function.update_idem, Function.update_idem]
  · simp only [shiftUp]
    rwa [Function.update_of_ne hji, Function.update_idem]

/-- What the body of the removal does at the end. -/
theorem out_shiftUp (h : Filled this.mLocAdapters (xs ++ adapter :: zs))
    (evtMask : Adapter → EventMask) {j : Fin MAX_ADAPTERS} (hj : j.val = xs.length) :
    Output.close ∈ (this.shiftUp evtMask j).2 ↔ xs ++ lastFirst zs = [] := by
  have hlast := lastBehind_eq h hj
  have hnil : xs ++ lastFirst zs = [] ↔ xs.length + zs.length = 0 := by
    rw [← length_lastFirst zs, ← List.length_append, List.length_eq_zero_iff]
  simp only [shiftUp, hnil, hlast]
  split_ifs with h0
  · exact iff_of_true (List.mem_singleton_self _) h0
  · refine iff_of_false ?_ h0
    simp

variable [DecidableEq Adapter]

/-- Adding an adapter of the list changes nothing. -/
theorem addAdapterFrom_of_mem (h : Filled this.mLocAdapters l) (evtMask : Adapter → EventMask)
    (i : ℕ) (hmem : adapter ∈ l.drop i) :
    this.addAdapterFrom evtMask adapter i = (this, []) := by
  induction i using addAdapterFrom.induct adapter this with
  | case1 i hi hcell => rw [addAdapterFrom, dif_pos hi, if_pos hcell]
  | case2 i hi hcell hnull =>
    rw [List.drop_eq_nil_of_le ((h.cell_eq_none ⟨i, hi⟩).mp hnull)] at hmem
    exact absurd hmem List.not_mem_nil
  | case3 i hi hcell hnull ih =>
    rw [addAdapterFrom, dif_pos hi, if_neg hcell, if_neg hnull]
    rw [h.cell_eq_none, not_le] at hnull
    rw [List.drop_eq_getElem_cons hnull] at hmem
    refine ih ((List.mem_cons.mp hmem).resolve_left ?_)
    rintro rfl
    exact hcell ((h.cell _).trans (List.getElem?_eq_getElem hnull))
  | case4 i hi => rw [addAdapterFrom, dif_neg hi]

/-- Adding a new adapter puts it behind the others, when there is a cell left. -/
theorem addAdapterFrom_of_not_mem (h : Filled this.mLocAdapters l)
    (evtMask : Adapter → EventMask) (hnew : adapter ∉ l) (hlt : l.length < MAX_ADAPTERS)
    (i : ℕ) (hi : i ≤ l.length) : this.addAdapterFrom evtMask adapter i =
      ({ this with mLocAdapters :=
          Function.update this.mLocAdapters ⟨l.length, hlt⟩ (some adapter) },
        [.sendOpen (evtMask adapter)]) := by
  induction i using addAdapterFrom.induct adapter this with
  | case1 i hlt' hcell => exact absurd (h.mem_iff.mpr ⟨_, hcell⟩) hnew
  | case2 i hlt' hcell hnull =>
    rw [addAdapterFrom, dif_pos hlt', if_neg hcell, if_pos hnull]
    obtain rfl := le_antisymm hi ((h.cell_eq_none ⟨i, hlt'⟩).mp hnull)
    rfl
  | case3 i hlt' hcell hnull ih =>
    rw [addAdapterFrom, dif_pos hlt', if_neg hcell, if_neg hnull]
    rw [h.cell_eq_none, not_le] at hnull
    exact ih hnull
  | case4 i hlt' => exact absurd (hi.trans_lt hlt) hlt'

/-- A full array takes no adapter. -/
theorem addAdapterFrom_of_full (h : Filled this.mLocAdapters l) (evtMask : Adapter → EventMask)
    (hfull : l.length = MAX_ADAPTERS) (i : ℕ) :
    this.addAdapterFrom evtMask adapter i = (this, []) := by
  induction i using addAdapterFrom.induct adapter this with
  | case1 i hi hcell => rw [addAdapterFrom, dif_pos hi, if_pos hcell]
  | case2 i hi hcell hnull =>
    have hle := (h.cell_eq_none ⟨i, hi⟩).mp hnull
    rw [hfull] at hle
    exact absurd hi (Nat.not_lt.mpr hle)
  | case3 i hi hcell hnull ih =>
    rw [addAdapterFrom, dif_pos hi, if_neg hcell, if_neg hnull]
    exact ih
  | case4 i hi => rw [addAdapterFrom, dif_neg hi]

/-- Removing an adapter that is not there changes nothing. -/
theorem removeAdapterFrom_of_not_mem (h : Filled this.mLocAdapters l)
    (evtMask : Adapter → EventMask) (i : ℕ) (hnot : adapter ∉ l.drop i) :
    this.removeAdapterFrom evtMask adapter i = (this, []) := by
  induction hk : MAX_ADAPTERS - i generalizing i with
  | zero => rw [removeAdapterFrom, dif_neg (Nat.not_lt.mpr (Nat.sub_eq_zero_iff_le.mp hk))]
  | succ k ih =>
    have hi : i < MAX_ADAPTERS := Nat.lt_of_sub_ne_zero (by omega)
    rw [removeAdapterFrom, dif_pos hi]
    split_ifs with hnull hcell
    · rfl
    · rw [h.cell] at hcell
      obtain ⟨hlt, heq⟩ := List.getElem?_eq_some_iff.mp hcell
      rw [List.drop_eq_getElem_cons hlt, heq] at hnot
      exact absurd List.mem_cons_self hnot
    · refine ih (i + 1) (fun hmem => hnot ?_) (by omega)
      rw [← List.drop_drop] at hmem
      exact List.mem_of_mem_drop hmem

/-- Removing an adapter of the list is the body of the loop in its cell. -/
theorem removeAdapterFrom_of_mem (h : Filled this.mLocAdapters (xs ++ adapter :: zs))
    (evtMask : Adapter → EventMask) (hxs : adapter ∉ xs) (hzs : adapter ∉ zs)
    {j : Fin MAX_ADAPTERS} (hj : j.val = xs.length) (i : ℕ) (hi : i ≤ xs.length) :
    this.removeAdapterFrom evtMask adapter i = this.shiftUp evtMask j := by
  obtain ⟨k, hk⟩ := Nat.exists_eq_add_of_le hi
  induction k generalizing i with
  | zero =>
    -- the cell of the adapter, and from there on nothing is left to do
    obtain rfl : i = j.val := hk.symm.trans hj.symm
    have hcell : this.mLocAdapters j = some adapter := by
      rw [h.cell, hj]
      simp
    have hlast := lastBehind_eq h hj
    have hfilled := filled_shiftUp h evtMask hj
    -- the rest of the loop starts behind the last adapter
    have hnot : adapter ∉ (xs ++ lastFirst zs).drop
        (lastBehind (Function.update this.mLocAdapters j none) j + 1) := by
      rw [List.drop_eq_nil_of_le]
      · exact List.not_mem_nil
      · rw [List.length_append, length_lastFirst, hlast]
        exact Nat.le_succ _
    have hrest := removeAdapterFrom_of_not_mem hfilled evtMask _ hnot
    rw [removeAdapterFrom, dif_pos j.isLt]
    simp only [Fin.eta, hcell, hrest, List.append_nil]
    rfl
  | succ k ih =>
    have hlt : i < xs.length := by omega
    have hi' : i < MAX_ADAPTERS := (hlt.trans_eq hj.symm).trans j.isLt
    have hcell : this.mLocAdapters ⟨i, hi'⟩ = some xs[i] := by
      rw [h.cell, List.getElem?_append_left hlt]
      exact List.getElem?_eq_getElem hlt
    have hne : xs[i] ≠ adapter := by
      rintro rfl
      exact hxs (List.getElem_mem hlt)
    rw [removeAdapterFrom, dif_pos hi', hcell, if_neg (Option.some_ne_none _),
      if_neg fun heq => hne (Option.some.inj heq)]
    exact ih (i + 1) hlt (by omega)

/-- **Adding.** A new adapter comes last when there is a cell left for it. -/
theorem filled_addAdapter (h : Filled this.mLocAdapters l) (hnodup : l.Nodup)
    (evtMask : Adapter → EventMask) (adapter : Adapter) :
    ∃ l' : List Adapter, Filled (this.addAdapter evtMask adapter).1.mLocAdapters l' ∧
      l'.Nodup ∧ (this.addAdapter evtMask adapter).1.mExcludedMask = this.mExcludedMask ∧
      Output.close ∉ (this.addAdapter evtMask adapter).2 ∧
      (adapter ∈ l ∨ l.length < MAX_ADAPTERS → l'.toFinset = insert adapter l.toFinset) := by
  rw [addAdapter]
  by_cases hmem : adapter ∈ l
  · rw [addAdapterFrom_of_mem h evtMask 0 hmem]
    refine ⟨l, h, hnodup, rfl, List.not_mem_nil, fun _ => ?_⟩
    exact (Finset.insert_eq_of_mem (List.mem_toFinset.mpr hmem)).symm
  rcases h.length_le.lt_or_eq with hlt | hfull
  · rw [addAdapterFrom_of_not_mem h evtMask hmem hlt 0 (Nat.zero_le _)]
    refine ⟨l ++ [adapter], h.append hlt adapter, ?_, rfl, by simp, fun _ => ?_⟩
    · exact List.nodup_append_comm.mp (List.nodup_cons.mpr ⟨hmem, hnodup⟩)
    · ext a
      simp
  · rw [addAdapterFrom_of_full h evtMask hfull 0]
    refine ⟨l, h, hnodup, rfl, List.not_mem_nil, ?_⟩
    rintro (hin | hlt)
    · exact absurd hin hmem
    · exact absurd hfull (Nat.ne_of_lt hlt)

/-- **Removing.** The adapter leaves the list, and `close()` is called when it was the last. -/
theorem filled_removeAdapter (h : Filled this.mLocAdapters l) (hnodup : l.Nodup)
    (evtMask : Adapter → EventMask) (adapter : Adapter) :
    ∃ l' : List Adapter, Filled (this.removeAdapter evtMask adapter).1.mLocAdapters l' ∧
      l'.Nodup ∧ (this.removeAdapter evtMask adapter).1.mExcludedMask = this.mExcludedMask ∧
      (Output.close ∈ (this.removeAdapter evtMask adapter).2 ↔ adapter ∈ l ∧ l' = []) ∧
      l'.toFinset = l.toFinset.erase adapter := by
  rw [removeAdapter]
  by_cases hmem : adapter ∈ l
  · obtain ⟨xs, zs, rfl⟩ := List.append_of_mem hmem
    have hperm : (xs ++ lastFirst zs).Perm (xs ++ zs) := (lastFirst_perm zs).append_left xs
    obtain ⟨hnot, hrest⟩ := List.nodup_middle.mp hnodup |> List.nodup_cons.mp
    have hlt : xs.length < MAX_ADAPTERS := by
      have hle := h.length_le
      rw [List.length_append, List.length_cons] at hle
      omega
    rw [removeAdapterFrom_of_mem h evtMask (fun hin => hnot (List.mem_append_left _ hin))
      (fun hin => hnot (List.mem_append_right _ hin)) (j := ⟨xs.length, hlt⟩) rfl 0
      (Nat.zero_le _)]
    refine ⟨xs ++ lastFirst zs, filled_shiftUp h evtMask rfl, hperm.nodup_iff.mpr hrest, rfl, ?_,
      ?_⟩
    · rw [out_shiftUp h evtMask rfl]
      exact (and_iff_right hmem).symm
    · ext a
      rw [List.mem_toFinset, hperm.mem_iff, Finset.mem_erase, List.mem_toFinset]
      constructor
      · intro ha
        refine ⟨?_, ?_⟩
        · rintro rfl
          exact hnot ha
        · exact (List.perm_middle.mem_iff).mpr (List.mem_cons_of_mem _ ha)
      · rintro ⟨hne, ha⟩
        exact ((List.mem_cons.mp (List.perm_middle.mem_iff.mp ha)).resolve_left hne)
  · rw [removeAdapterFrom_of_not_mem h evtMask 0 hmem]
    refine ⟨l, h, hnodup, rfl, ?_, ?_⟩
    · exact iff_of_false List.not_mem_nil fun hand => hmem hand.1
    · rw [Finset.erase_eq_of_notMem]
      exact fun hin => hmem (List.mem_toFinset.mp hin)

end LocApiBase

/-! ## Runs -/

/-- A `LocApiBase` and the `mEvtMask` of every adapter there is. -/
structure Sys (Adapter : Type*) where
  /-- the object -/
  api : LocApiBase Adapter
  /-- `LocAdapterBase::getEvtMask` -/
  evtMask : Adapter → EventMask

/-- The calls. -/
inductive Call (Adapter : Type*) where
  /-- the constructor of an adapter calls `addAdapter` -/
  | addAdapter (adapter : Adapter)
  /-- the destructor of an adapter calls `removeAdapter` -/
  | removeAdapter (adapter : Adapter)
  /-- `LocAdapterBase::updateEvtMask` -/
  | updateEvtMask (adapter : Adapter) (event : EventMask) (isEnabled : Bool)
  deriving DecidableEq

variable {Adapter : Type*} [DecidableEq Adapter]

/-- The mask of an adapter after `LocAdapterBase::updateEvtMask`. -/
def updatedMask (mask event : EventMask) (isEnabled : Bool) : EventMask :=
  if isEnabled then mask ||| event else mask &&& ~~~event

/-- One call. -/
def machine : Machine (Sys Adapter) (Call Adapter) Output where
  step s
    | .addAdapter adapter =>
      some ({ s with api := (s.api.addAdapter s.evtMask adapter).1 },
        (s.api.addAdapter s.evtMask adapter).2)
    | .removeAdapter adapter =>
      some ({ s with api := (s.api.removeAdapter s.evtMask adapter).1 },
        (s.api.removeAdapter s.evtMask adapter).2)
    | .updateEvtMask adapter event isEnabled =>
      let evtMask := Function.update s.evtMask adapter
        (updatedMask (s.evtMask adapter) event isEnabled)
      some ({ s with evtMask }, [.sendOpen (s.api.getEvtMask evtMask)])

/-- A new object. -/
def start (mExcludedMask : EventMask) (evtMask : Adapter → EventMask) : Sys Adapter :=
  ⟨⟨fun _ => none, mExcludedMask⟩, evtMask⟩

/-- The adapters that were added and not removed since. -/
def present (v : Finset Adapter) (e : Event (Sys Adapter) (Call Adapter) Output) :
    Finset Adapter :=
  match e.label with
  | .addAdapter adapter => insert adapter v
  | .removeAdapter adapter => v.erase adapter
  | .updateEvtMask _ _ _ => v

section

variable {excluded : EventMask} {evtMask : Adapter → EventMask} {s : Sys Adapter}
  {h : List (Event (Sys Adapter) (Call Adapter) Output)} {l : List Adapter}
  {e : Event (Sys Adapter) (Call Adapter) Output}

/-- The array is filled from the front, without duplicates. -/
def Prefixed (excluded : EventMask) (s : Sys Adapter) (l : List Adapter) : Prop :=
  Filled s.api.mLocAdapters l ∧ l.Nodup ∧ s.api.mExcludedMask = excluded

/-- **One call.** The array stays filled from the front. The adapters in it change as they
should when the new one fits, and `close()` is called by the removal that empties the array. -/
theorem Prefixed.step (hI : Prefixed excluded e.pre l)
    (hs : machine.step e.pre e.label = some (e.post, e.out)) :
    ∃ l' : List Adapter, Prefixed excluded e.post l' ∧
      ((present l.toFinset e).card ≤ MAX_ADAPTERS → l'.toFinset = present l.toFinset e) ∧
      (Output.close ∈ e.out ↔ ∃ adapter, e.label = .removeAdapter adapter ∧ adapter ∈ l ∧
        l' = []) := by
  obtain ⟨hfilled, hnodup, hexcl⟩ := hI
  obtain ⟨pre, label, out, post⟩ := e
  cases label with
  | addAdapter adapter =>
    obtain ⟨hpost, hout⟩ := Prod.mk.inj (Option.some.inj hs)
    obtain ⟨l', hfilled', hnodup', hexcl', hclose, hset⟩ :=
      LocApiBase.filled_addAdapter hfilled hnodup pre.evtMask adapter
    refine ⟨l', ?_, fun hcard => hset ?_, ?_⟩
    · rw [← hpost]
      exact ⟨hfilled', hnodup', hexcl'.trans hexcl⟩
    · by_cases hmem : adapter ∈ l
      · exact Or.inl hmem
      · rw [present, Finset.card_insert_of_notMem (fun hin => hmem (List.mem_toFinset.mp hin)),
          List.toFinset_card_of_nodup hnodup] at hcard
        exact Or.inr hcard
    · refine iff_of_false ?_ ?_
      · rwa [← hout]
      · rintro ⟨_, ⟨⟩, -⟩
  | removeAdapter adapter =>
    obtain ⟨hpost, hout⟩ := Prod.mk.inj (Option.some.inj hs)
    obtain ⟨l', hfilled', hnodup', hexcl', hclose, hset⟩ :=
      LocApiBase.filled_removeAdapter hfilled hnodup pre.evtMask adapter
    refine ⟨l', ?_, fun _ => hset, ?_⟩
    · rw [← hpost]
      exact ⟨hfilled', hnodup', hexcl'.trans hexcl⟩
    · rw [← hout, hclose]
      constructor
      · intro hand
        exact ⟨adapter, rfl, hand⟩
      · rintro ⟨_, ⟨⟩, hand⟩
        exact hand
  | updateEvtMask adapter event isEnabled =>
    obtain ⟨hpost, hout⟩ := Prod.mk.inj (Option.some.inj hs)
    refine ⟨l, ?_, fun _ => rfl, ?_⟩
    · rw [← hpost]
      exact ⟨hfilled, hnodup, hexcl⟩
    · refine iff_of_false ?_ ?_
      · rw [← hout]
        simp
      · rintro ⟨_, ⟨⟩, -⟩

omit [DecidableEq Adapter] in
/-- A new object has no adapter. -/
theorem prefixed_start : Prefixed excluded (start excluded evtMask : Sys Adapter) [] :=
  ⟨filled_nil, List.nodup_nil, rfl⟩

/-- In every run the array stays filled from the front. -/
theorem prefixed_run (hrun : Run machine (start excluded evtMask) h s) :
    ∃ l : List Adapter, Prefixed excluded s l := by
  refine Run.invariant_of (fun s => ∃ l, Prefixed excluded s l) (fun _ _ => True)
    ⟨[], prefixed_start⟩ ?_ hrun fun _ _ => trivial
  rintro s label s' out ⟨l, hI⟩ - hs
  obtain ⟨l', hI', -, -⟩ := Prefixed.step (e := ⟨s, label, out, s'⟩) hI hs
  exact ⟨l', hI'⟩

/-- While they all fit, the array has the adapters that are present. -/
theorem present_run (hrun : Run machine (start excluded evtMask) h s)
    (hfit : Watched present ∅ (fun v e => (present v e).card ≤ MAX_ADAPTERS) h) :
    ∃ l : List Adapter, Prefixed excluded s l ∧ l.toFinset = watch present ∅ h := by
  refine Run.watched_invariant (fun v s => ∃ l : List Adapter, Prefixed excluded s l ∧
    l.toFinset = v) ⟨[], prefixed_start, rfl⟩ ?_ hrun hfit
  rintro v e ⟨l, hI, rfl⟩ hcard hs
  obtain ⟨l', hI', hset, -⟩ := hI.step hs
  exact ⟨l', hI', hset hcard⟩

omit [DecidableEq Adapter] in
/-- The list that fills an array is the only one. -/
theorem Prefixed.unique {l' : List Adapter} (h : Prefixed excluded s l)
    (h' : Prefixed excluded s l') : l = l' := by
  rw [← LocApiBase.toAllLocAdapters_eq h.1, ← LocApiBase.toAllLocAdapters_eq h'.1]

/-- **The adapters of every run.** The array is filled from the front without duplicates, so a
dispatch loop calls every adapter in it; as long as they all fit these are the adapters that
were added and not removed; `close()` is called exactly by the removals that empty the array;
and `getEvtMask` has the events that a stored adapter asks for, less the excluded ones. -/
theorem adapters_run (hrun : Run machine (start excluded evtMask) h s) :
    (∃ l : List Adapter, l.Nodup ∧ (∀ i, s.api.mLocAdapters i = l[i.val]?) ∧
      s.api.toAllLocAdapters = l ∧
      (Watched present ∅ (fun v e => (present v e).card ≤ MAX_ADAPTERS) h →
        ∀ adapter, adapter ∈ l ↔ adapter ∈ watch present ∅ h)) ∧
    (∀ e ∈ h, Output.close ∈ e.out ↔ ∃ adapter, e.label = .removeAdapter adapter ∧
      (∃ i, e.pre.api.mLocAdapters i = some adapter) ∧
      ∀ i, e.post.api.mLocAdapters i = none) ∧
    ∀ b < 32, (s.api.getEvtMask s.evtMask).getLsbD b = true ↔
      (∃ i adapter, s.api.mLocAdapters i = some adapter ∧
        (s.evtMask adapter).getLsbD b = true) ∧ excluded.getLsbD b = false := by
  obtain ⟨l, hI⟩ := prefixed_run hrun
  refine ⟨⟨l, hI.2.1, hI.1.cell, LocApiBase.toAllLocAdapters_eq hI.1, ?_⟩, ?_, ?_⟩
  · intro hfit adapter
    obtain ⟨l', hI', hset⟩ := present_run hrun hfit
    rw [← hset, hI.unique hI', List.mem_toFinset]
  · intro e he
    obtain ⟨h₁, h₂, rfl⟩ := List.append_of_mem he
    obtain ⟨hpre, hs, -⟩ := Run.event hrun
    obtain ⟨lpre, hIpre⟩ := prefixed_run hpre
    obtain ⟨lpost, hIpost, -, hclose⟩ := hIpre.step hs
    rw [hclose]
    refine exists_congr fun adapter => and_congr_right fun _ => ?_
    rw [hIpre.1.mem_iff, hIpost.1.eq_nil_iff]
  · intro b hb
    rw [LocApiBase.getLsbD_getEvtMask hI.1 s.evtMask hb, hI.2.2]
    refine and_congr_left fun _ => ⟨?_, ?_⟩
    · rintro ⟨adapter, hmem, hbit⟩
      obtain ⟨i, hi⟩ := hI.1.mem_iff.mp hmem
      exact ⟨i, adapter, hi, hbit⟩
    · rintro ⟨i, adapter, hi, hbit⟩
      exact ⟨adapter, hI.1.mem_iff.mpr ⟨i, hi⟩, hbit⟩

/-- Three adapters are added and the first is removed: the last one moves into its cell. -/
theorem adapters_run_three :
    ∃ h s, Run machine (start mFgExclMask fun _ : ℕ => 1) h s ∧
      s.api.toAllLocAdapters = [3, 2] ∧
      ∀ adapter, adapter ∈ s.api.toAllLocAdapters ↔ adapter ∈ watch present ∅ h := by
  obtain ⟨h, s, hrun, -, hcheck⟩ := (machine : Machine (Sys ℕ) (Call ℕ) Output).exists_run
    (start mFgExclMask fun _ => 1)
    [.addAdapter 1, .addAdapter 2, .addAdapter 3, .removeAdapter 1]
    (fun h s => decide (s.api.toAllLocAdapters = [3, 2]) && checkWatched present
      (fun v e => decide ((present v e).card ≤ MAX_ADAPTERS)) ∅ h) (by decide +kernel)
  obtain ⟨hall, hfit⟩ := Bool.and_eq_true_iff.mp hcheck
  obtain ⟨⟨l, -, -, hl, hmem⟩, -, -⟩ := adapters_run hrun
  refine ⟨h, s, hrun, of_decide_eq_true hall, fun adapter => ?_⟩
  rw [hl]
  exact hmem ((watched_of_check hfit).mono fun e _ v hv => of_decide_eq_true hv) adapter

/-- A background client asks for position reports, and the mask does not have them. -/
theorem position_excluded :
    ∃ h s, Run machine (start mBgExclMask fun _ : ℕ => 1) h s ∧
      Watched present ∅ (fun v e => (present v e).card ≤ MAX_ADAPTERS) h ∧
      (∃ i, s.api.mLocAdapters i = some 1) ∧ (s.evtMask 1).getLsbD 0 = true ∧
      (s.api.getEvtMask s.evtMask).getLsbD 0 = false := by
  obtain ⟨h, s, hrun, -, hcheck⟩ := (machine : Machine (Sys ℕ) (Call ℕ) Output).exists_run
    (start mBgExclMask fun _ => 1) [.addAdapter 1]
    (fun h s => decide ((∃ i, s.api.mLocAdapters i = some 1) ∧
      (s.evtMask 1).getLsbD 0 = true ∧
      (s.api.getEvtMask s.evtMask).getLsbD 0 = false) && checkWatched present
      (fun v e => decide ((present v e).card ≤ MAX_ADAPTERS)) ∅ h) (by decide +kernel)
  obtain ⟨hmasks, hfit⟩ := Bool.and_eq_true_iff.mp hcheck
  exact ⟨h, s, hrun, (watched_of_check hfit).mono fun e _ v hv => of_decide_eq_true hv,
    of_decide_eq_true hmasks⟩

end

end OppoA37.LocCore
