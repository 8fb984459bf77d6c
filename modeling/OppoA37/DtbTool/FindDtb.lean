import OppoA37.DtbTool.ChipList

/-!
# The scan of `dtbtool`

`find_dtb` walks through a directory and its subdirectories. For every `.dtb` file it gets the
records from the decompiled device tree, and adds them to the chip list; the first record of a
file is the master of all of them, and it alone knows the file and its padded size.

What `dtc` and the file system say is a parameter, a `Host`. `Scanned` is what holds of the list
after the scan.
-/

namespace OppoA37.DtbTool

/-- An `int` of the host. -/
def i32 (x : ℤ) : ℤ := Int.bmod x (2 ^ 32)

/-- What identifies a board, in a `struct chipInfo_t`. -/
structure ChipKeys where
  /-- `chipset` -/
  chipset : UInt32
  /-- `platform` -/
  platform : UInt32
  /-- `subtype` -/
  subtype : UInt32
  /-- `revNum` -/
  revNum : UInt32
  /-- `pmic_model` -/
  pmicModel : Fin 4 → UInt32
  /-- `oppoId` -/
  oppoId : UInt32
  deriving DecidableEq

/-- The keys of a record. -/
def ChipInfo.keys (c : ChipInfo) : ChipKeys :=
  ⟨c.chipset, c.platform, c.subtype, c.revNum, c.pmicModel, c.oppoId⟩

/-- A record as `getChipInfo` fills it in. -/
def ChipKeys.toInfo (k : ChipKeys) (master : ℕ) : ChipInfo :=
  ⟨k.chipset, k.platform, k.subtype, k.revNum, k.pmicModel, k.oppoId, 0, none, none, none, master,
    false, 0⟩

/-- The tools and files around `dtbtool`. -/
structure Host where
  /-- `GetVersionInfo` of a file -/
  getVersionInfo : Path → ℕ
  /-- the records that `getChipInfo` makes for a file and version, along `t_next` -/
  getChipInfo : Path → ℕ → List ChipKeys
  /-- the bytes of a file, if `stat` and `fopen` find it -/
  file : Path → Option (List UInt8)
  /-- the output file can be created -/
  creates : Bool
  /-- the bytes behind the filler in memory -/
  beyond : ℕ → UInt8

/-- What `readdir` answers for a directory. -/
inductive Entries where
  /-- there are no more entries -/
  | done
  /-- a regular file -/
  | reg (name : Path) (rest : Entries)
  /-- a directory, with its entries -/
  | dir (name : Path) (entries rest : Entries)
  /-- a directory that `opendir` fails for -/
  | locked (name : Path) (rest : Entries)
  /-- something else -/
  | other (rest : Entries)

/-- What the scan changes: the chip list, how many records are allocated, and `version`. -/
structure Scan where
  /-- the records and the list -/
  chips : ChipState
  /-- so many records are allocated -/
  allocated : ℕ
  /-- `*version` -/
  version : ℕ

namespace Scan

/-- Before the scan. -/
def init : Scan := ⟨.init fun _ => (⟨0, 0, 0, 0, fun _ => 0, 0⟩ : ChipKeys).toInfo 0, 0, 0⟩

/-- The records of one file, of which the first one is the master. -/
def alloc (st : Scan) (keys : List ChipKeys) : Scan :=
  { st with
    chips := { st.chips with
      chips := fun a =>
        if st.allocated ≤ a then
          (keys[a - st.allocated]?.map (·.toInfo st.allocated)).getD (st.chips.chips a)
        else st.chips.chips a }
    allocated := st.allocated + keys.length }

end Scan

/-- The `.dtb` files. -/
def isDtb (name : Path) : Bool := 4 < name.length && ['.', 'd', 't', 'b'].isSuffixOf name

/-- The path of a subdirectory, which is cut off at `PATH_MAX`. -/
def subdirPath (path name : Path) : Path :=
  (path ++ (if path.getLast? = some '/' then [] else ['/']) ++ name ++ ['/']).take 4095

/-- The loop over the additional records of a file. -/
def addOthers : List ℕ → ChipState → ℤ → Option (ChipState × ℤ)
  | [], s, count => some (s, count)
  | t :: ts, s, count => do
    let (s, rc) ← chipAdd s t
    match rc with
    | .success => addOthers ts s (i32 (count + 1))
    | .error => addOthers ts s count

/-- The `num` records from `chip` on of a file with some bytes join the chip list. When the first
one is a duplicate, the others are skipped, too. -/
def addRecords (pageSize : ℕ) (filename : Path) (bytes : List UInt8) (chip num : ℕ)
    (s : ChipState) (count : ℤ) : Option (ChipState × ℤ) := do
  let (s, rc) ← chipAdd s chip
  match rc with
  | .error => some (s, count)
  | .success =>
    let s := s.write chip fun i => { i with
      dtbSize := UInt32.ofNat (bytes.length + (pageSize - bytes.length % pageSize)) }
    let s := s.write chip fun i => { i with dtbFile := some filename }
    addOthers ((List.range num).tail.map (chip + ·)) s (i32 (count + 1))

/-- One regular file, in `find_dtb`; `count` is `dtb_count`. A file without records is skipped,
unless it has no known version: then `chip` is `NULL` where it is read. -/
def findFile (host : Host) (pageSize : ℕ) (path name : Path) (st : Scan) (count : ℤ) :
    Option (Scan × ℤ) :=
  if isDtb name then
    let filename := path ++ name
    let msmversion := host.getVersionInfo filename
    let st := { st with version := if st.version < msmversion then msmversion else st.version }
    let keys := host.getChipInfo filename msmversion
    if keys = [] then
      if msmversion = 1 ∨ msmversion = 2 ∨ msmversion = 3 then some (st, count) else none
    else
      let chip := st.allocated
      let st := st.alloc keys
      match host.file filename with
      | none => some (st, count)
      | some bytes =>
        if bytes.length = 0 then some (st, count)
        else do
          let (s, count) ← addRecords pageSize filename bytes chip keys.length st.chips count
          some ({ st with chips := s }, count)
  else some (st, count)

/-- `find_dtb` on a directory that is open; `count` is `dtb_count`. A subdirectory that cannot
be opened counts for `RC_ERROR`, which is -1. -/
def findDtb (host : Host) (pageSize : ℕ) : Entries → Path → Scan → ℤ → Option (Scan × ℤ)
  | .done, _, st, count => some (st, count)
  | .reg name rest, path, st, count => do
    let (st, count) ← findFile host pageSize path name st count
    findDtb host pageSize rest path st count
  | .dir name entries rest, path, st, count =>
    if name.head? = some '.' then findDtb host pageSize rest path st count
    else do
      let (st, more) ← findDtb host pageSize entries (subdirPath path name) st 0
      findDtb host pageSize rest path st (i32 (count + more))
  | .locked name rest, path, st, count =>
    if name.head? = some '.' then findDtb host pageSize rest path st count
    else findDtb host pageSize rest path st (i32 (count + -1))
  | .other rest, path, st, count => findDtb host pageSize rest path st count

/-- The subdirectories that the scan cannot open. -/
def Entries.unreadable : Entries → ℕ
  | .done => 0
  | .reg _ rest => rest.unreadable
  | .dir name entries rest =>
    if name.head? = some '.' then rest.unreadable else entries.unreadable + rest.unreadable
  | .locked name rest => if name.head? = some '.' then rest.unreadable else rest.unreadable + 1
  | .other rest => rest.unreadable

/-! ## What the scan leaves behind -/

/-- A padded size, as it is stored in a record. -/
def paddedSize (pageSize : ℕ) (bytes : List UInt8) : UInt32 :=
  UInt32.ofNat (bytes.length + (pageSize - bytes.length % pageSize))

/-- A record that comes from a file: its master is in the list, and knows the file and its
padded size. -/
def FromFile (host : Host) (pageSize : ℕ) (s : ChipState) (l : List ℕ) (a : ℕ) : Prop :=
  ∃ f bytes, (s.info a).master ∈ l ∧ host.file f = some bytes ∧ bytes ≠ [] ∧
    (s.info a).keys ∈ host.getChipInfo f (host.getVersionInfo f) ∧
    (s.info (s.info a).master).dtbFile = some f ∧
    (s.info (s.info a).master).dtbSize = paddedSize pageSize bytes

/-- A record that knows a file is the first one of it. -/
def FirstRecord (host : Host) (s : ChipState) (a : ℕ) : Prop :=
  ∀ f, (s.info a).dtbFile = some f →
    (host.getChipInfo f (host.getVersionInfo f)).head? = some (s.info a).keys

/-- The chip list of a scan. -/
structure Scanned (host : Host) (pageSize : ℕ) (st : Scan) (l : List ℕ) : Prop where
  /-- it is a chip list -/
  chips : Chips st.chips l
  /-- its records are allocated -/
  lt_allocated : ∀ a ∈ l, a < st.allocated
  /-- they come from files -/
  fromFile : ∀ a ∈ l, FromFile host pageSize st.chips l a
  /-- a master is the first record of its file -/
  first : ∀ a ∈ l, FirstRecord host st.chips a
  /-- nothing is written yet -/
  unwritten : ∀ a, a < st.allocated →
    (st.chips.info a).wroteDtb = false ∧ (st.chips.info a).masterOffset = 0

variable {host : Host} {pageSize : ℕ} {s s' : ChipState} {st st' : Scan} {l l' : List ℕ}
  {a c : ℕ} {count count' : ℤ}

/-- A list is a chip list by the keys and pointers of its records. -/
theorem Chips.congr (h : Chips s l) (hhead : s'.chipList = s.chipList)
    (hcount : s'.added = s.added) (hsame : ∀ a ∈ l, (s'.chips a).keys = (s.chips a).keys ∧
      s'.next a = s.next a ∧ s'.prev a = s.prev a) : Chips s' l := by
  have hrank : ∀ a ∈ l, rank (s'.info a) = rank (s.info a) := by
    intro a ha
    have hkeys := (hsame a ha).1
    simp only [ChipInfo.keys, ChipKeys.mk.injEq] at hkeys
    simp [rank, ChipState.info, ChipInfo.unlinked, hkeys]
  have hdup : ∀ a ∈ l, ∀ b ∈ l,
      duplicate (s'.info a) (s'.info b) = duplicate (s.info a) (s.info b) := by
    intro a ha b hb
    have hkeys := (hsame a ha).1
    have hkeys' := (hsame b hb).1
    simp only [ChipInfo.keys, ChipKeys.mk.injEq] at hkeys hkeys'
    simp [duplicate, ChipState.info, ChipInfo.unlinked, hkeys, hkeys']
  refine ⟨h.nodup, hhead.trans h.head, h.linked.congr fun a ha => (hsame a ha).2,
    hcount.trans h.count, ?_, ?_⟩
  · apply h.sorted.imp_of_mem
    intro a b ha hb hab
    rwa [hrank a ha, hrank b hb]
  · apply h.distinct.imp_of_mem
    intro a b ha hb hab
    rwa [hdup a ha b hb]

theorem i32_modEq (x : ℤ) : i32 x ≡ x [ZMOD 2 ^ 32] := Int.bmod_emod

theorem FromFile.mono (h : FromFile host pageSize s l a) (hl : ∀ b ∈ l, b ∈ l')
    (hinfo : ∀ b, b = a ∨ b ∈ l → s'.info b = s.info b) : FromFile host pageSize s' l' a := by
  obtain ⟨f, bytes, hm, hf, hb, hk, hfile, hsize⟩ := h
  refine ⟨f, bytes, ?_, hf, hb, ?_, ?_, ?_⟩
  all_goals rw [hinfo a (.inl rfl)]
  · exact hl _ hm
  · exact hk
  · rwa [hinfo _ (.inr hm)]
  · rwa [hinfo _ (.inr hm)]

/-- A record of a file joins the list. -/
theorem Scanned.add (h : Scanned host pageSize st l) (hchips : Chips s' l')
    (hinfo : ∀ b, s'.info b = st.chips.info b) (hl : ∀ b, b ∈ l' ↔ b ∈ l ∨ b = c)
    (hc : c < st.allocated) (hfrom : FromFile host pageSize s' l' c)
    (hfirst : (s'.info c).dtbFile = none) :
    Scanned host pageSize { st with chips := s' } l' := by
  refine ⟨hchips, ?_, ?_, ?_, ?_⟩
  · intro a ha
    rcases (hl a).mp ha with ha | rfl
    · exact h.lt_allocated a ha
    · exact hc
  · intro a ha
    rcases (hl a).mp ha with ha | rfl
    · exact (h.fromFile a ha).mono (fun b hb => (hl b).mpr (.inl hb)) fun b _ => hinfo b
    · exact hfrom
  · intro a ha f hf
    rcases (hl a).mp ha with ha | rfl
    · dsimp only at hf ⊢
      rw [hinfo a] at hf ⊢
      exact h.first a ha f hf
    · exact absurd (hfirst.symm.trans hf) (Option.some_ne_none f).symm
  · intro a ha
    dsimp only
    rw [hinfo a]
    exact h.unwritten a ha

/-- Counting a record counts the longer list. -/
theorem count_middle {l₁ l₂ : List ℕ} {n : ℤ}
    (h : count' + (l₁ ++ c :: l₂).length ≡ i32 (count + 1) + n [ZMOD 2 ^ 32]) :
    count' + (l₁ ++ l₂).length ≡ count + n [ZMOD 2 ^ 32] := by
  have hlen : ((l₁ ++ c :: l₂).length : ℤ) = (l₁ ++ l₂).length + 1 := by
    simp only [List.length_append, List.length_cons]
    push_cast
    ring
  rw [hlen] at h
  have hstep := (h.trans ((i32_modEq (count + 1)).add_right n)).sub_right 1
  ring_nf at hstep ⊢
  exact hstep

/-- The loop over the additional records of a file. -/
theorem addOthers_spec {ts : List ℕ} (h : Scanned host pageSize st l)
    (hts : ∀ t ∈ ts, t < st.allocated ∧ FromFile host pageSize st.chips l t ∧
      (st.chips.info t).dtbFile = none)
    (hrun : addOthers ts st.chips count = some (s', count')) :
    ∃ l', Scanned host pageSize { st with chips := s' } l' ∧
      count' + l.length ≡ count + l'.length [ZMOD 2 ^ 32] := by
  induction ts generalizing st l count with
  | nil =>
    obtain ⟨rfl, rfl⟩ := Prod.mk.inj (Option.some.inj hrun)
    exact ⟨l, h, rfl⟩
  | cons t ts ih =>
    simp only [List.forall_mem_cons] at hts
    obtain ⟨-, hadd⟩ | ⟨s₁, l₁, l₂, rfl, hc, hadd, hl', hinfo⟩ := h.chips.chipAdd t
    · simp only [addOthers, hadd] at hrun
      exact ih h hts.2 hrun
    · simp only [addOthers, hadd] at hrun
      have hmem : ∀ b, b ∈ l₁ ++ t :: l₂ ↔ b ∈ l₁ ++ l₂ ∨ b = t := by
        intro b
        simp only [List.mem_append, List.mem_cons]
        tauto
      have hmono : ∀ a, FromFile host pageSize st.chips (l₁ ++ l₂) a →
          FromFile host pageSize s₁ (l₁ ++ t :: l₂) a := fun a ha =>
        ha.mono (fun b hb => (hmem b).mpr (.inl hb)) fun b _ => hinfo b
      have h₁ := h.add hl' hinfo hmem hts.1.1 (hmono t hts.1.2.1) (by rw [hinfo, hts.1.2.2])
      have hts' : ∀ a ∈ ts, a < st.allocated ∧ FromFile host pageSize s₁ (l₁ ++ t :: l₂) a ∧
          (s₁.info a).dtbFile = none := by
        intro a ha
        obtain ⟨hlt, hfrom, hnone⟩ := hts.2 a ha
        exact ⟨hlt, hmono a hfrom, by rw [hinfo, hnone]⟩
      obtain ⟨l', hl'', hcount⟩ := ih h₁ hts' hrun
      exact ⟨l', hl'', count_middle hcount⟩

/-- The records of a file are allocated. -/
theorem Scanned.alloc (h : Scanned host pageSize st l) (keys : List ChipKeys) :
    Scanned host pageSize (st.alloc keys) l := by
  have hold : ∀ a, a < st.allocated → (st.alloc keys).chips.chips a = st.chips.chips a :=
    fun a ha => if_neg (Nat.not_le.mpr ha)
  have hinfo : ∀ a, a < st.allocated → (st.alloc keys).chips.info a = st.chips.info a :=
    fun a ha => congrArg ChipInfo.unlinked (hold a ha)
  refine ⟨h.chips.congr rfl rfl ?_, ?_, ?_, ?_, ?_⟩
  · intro a ha
    have hsame := hold a (h.lt_allocated a ha)
    exact ⟨congrArg _ hsame, congrArg _ hsame, congrArg _ hsame⟩
  · exact fun a ha => (h.lt_allocated a ha).trans_le (Nat.le_add_right _ _)
  · intro a ha
    refine (h.fromFile a ha).mono (fun b hb => hb) ?_
    rintro b (rfl | hb)
    · exact hinfo b (h.lt_allocated b ha)
    · exact hinfo b (h.lt_allocated b hb)
  · intro a ha f hf
    rw [hinfo a (h.lt_allocated a ha)] at hf ⊢
    exact h.first a ha f hf
  · intro a ha
    by_cases hlt : a < st.allocated
    · rw [hinfo a hlt]
      exact h.unwritten a hlt
    · have hidx : a - st.allocated < keys.length := by
        have ha' : a < st.allocated + keys.length := ha
        omega
      have hnew : (st.alloc keys).chips.chips a = (keys[a - st.allocated]).toInfo st.allocated := by
        simp [Scan.alloc, Nat.le_of_not_lt hlt, hidx]
      simp [ChipState.info, ChipInfo.unlinked, hnew, ChipKeys.toInfo]

/-- A new record of a file. -/
theorem info_alloc (st : Scan) {keys : List ChipKeys} {i : ℕ} (hi : i < keys.length) :
    (st.alloc keys).chips.info (st.allocated + i) = (keys[i]).toInfo st.allocated := by
  simp [ChipState.info, ChipInfo.unlinked, Scan.alloc, hi, ChipKeys.toInfo]

/-- The master of a file joins the list, with the file and its size. -/
theorem Scanned.join {l₁ l₂ : List ℕ} (h : Scanned host pageSize st (l₁ ++ l₂)) (hc : c ∉ l₁ ++ l₂)
    (hlt : c < st.allocated) {f : Path} {bytes : List UInt8} {s₂ : ChipState}
    (hchips : Chips s₂ (l₁ ++ c :: l₂)) (hother : ∀ b, b ≠ c → s₂.info b = st.chips.info b)
    (hmaster : s₂.info c = { st.chips.info c with
      dtbSize := paddedSize pageSize bytes, dtbFile := some f })
    (hfrom : FromFile host pageSize s₂ (l₁ ++ c :: l₂) c)
    (hhead : (host.getChipInfo f (host.getVersionInfo f))[0]? = some (st.chips.info c).keys) :
    Scanned host pageSize { st with chips := s₂ } (l₁ ++ c :: l₂) := by
  have hmem : ∀ b, b ∈ l₁ ++ c :: l₂ ↔ b ∈ l₁ ++ l₂ ∨ b = c := by
    intro b
    simp only [List.mem_append, List.mem_cons]
    tauto
  refine ⟨hchips, ?_, ?_, ?_, ?_⟩
  · intro a ha
    rcases (hmem a).mp ha with ha | rfl
    · exact h.lt_allocated a ha
    · exact hlt
  · intro a ha
    rcases (hmem a).mp ha with ha' | rfl
    · refine (h.fromFile a ha').mono (fun b hb => (hmem b).mpr (.inl hb)) ?_
      intro b hb
      apply hother b
      rintro rfl
      rcases hb with rfl | hb
      · exact hc ha'
      · exact hc hb
    · exact hfrom
  · intro a ha f' hf'
    by_cases hac : a = c
    · subst hac
      dsimp only at hf' ⊢
      rw [hmaster] at hf' ⊢
      rw [← Option.some.inj hf', List.head?_eq_getElem?]
      exact hhead
    · dsimp only at hf' ⊢
      rw [hother a hac] at hf' ⊢
      exact h.first a (((hmem a).mp ha).resolve_right hac) f' hf'
  · intro a ha
    have hold := h.unwritten a ha
    by_cases hac : a = c
    · subst hac
      dsimp only
      rw [hmaster]
      exact hold
    · dsimp only
      rw [hother a hac]
      exact hold

/-- The records of a file join the list, unless the first one is a duplicate. -/
theorem addRecords_spec {f : Path} {bytes : List UInt8} {num : ℕ}
    (h : Scanned host pageSize st l) (hc : c ∉ l) (hnum : 0 < num)
    (hallocated : c + num ≤ st.allocated) (hf : host.file f = some bytes) (hb : bytes ≠ [])
    (hnew : ∀ i < num, (st.chips.info (c + i)).master = c ∧
      (host.getChipInfo f (host.getVersionInfo f))[i]? = some (st.chips.info (c + i)).keys ∧
      (st.chips.info (c + i)).dtbFile = none)
    (hrun : addRecords pageSize f bytes c num st.chips count = some (s', count')) :
    ∃ l', Scanned host pageSize { st with chips := s' } l' ∧
      count' + l.length ≡ count + l'.length [ZMOD 2 ^ 32] := by
  obtain ⟨-, hadd⟩ | ⟨s₁, l₁, l₂, rfl, -, hadd, hl', hinfo⟩ := h.chips.chipAdd c
  · rw [addRecords, hadd] at hrun
    obtain ⟨rfl, rfl⟩ := Prod.mk.inj (Option.some.inj hrun)
    exact ⟨l, h, rfl⟩
  · rw [addRecords, hadd] at hrun
    dsimp only [Option.bind_eq_bind, Option.bind_some] at hrun
    -- the master gets the file and its size
    generalize hs₂ : (s₁.write c fun i => { i with
      dtbSize := UInt32.ofNat (bytes.length + (pageSize - bytes.length % pageSize)) }).write c
      (fun i => { i with dtbFile := some f }) = s₂ at hrun
    have hother : ∀ b, b ≠ c → s₂.chips b = s₁.chips b := by
      intro b hbc
      simp [← hs₂, hbc]
    have hother' : ∀ b, b ≠ c → s₂.info b = st.chips.info b := fun b hbc =>
      (congrArg ChipInfo.unlinked (hother b hbc)).trans (hinfo b)
    have hmaster : s₂.info c = { st.chips.info c with
        dtbSize := paddedSize pageSize bytes, dtbFile := some f } := by
      rw [← hinfo c]
      simp [← hs₂, ChipState.info, ChipInfo.unlinked, paddedSize]
    have hchips : Chips s₂ (l₁ ++ c :: l₂) := by
      refine hl'.congr (by rw [← hs₂]; rfl) (by rw [← hs₂]; rfl) fun a _ => ?_
      by_cases hac : a = c
      · subst hac
        simp [← hs₂, ChipInfo.keys, ChipState.next, ChipState.prev]
      · simp [hother a hac, ChipState.next, ChipState.prev]
    -- every record of the file comes from it
    have hfrom : ∀ i < num, FromFile host pageSize s₂ (l₁ ++ c :: l₂) (c + i) := by
      intro i hi
      obtain ⟨hmi, hki, -⟩ := hnew i hi
      have hm : (s₂.info (c + i)).master = c ∧
          (s₂.info (c + i)).keys = (st.chips.info (c + i)).keys := by
        by_cases hic : c + i = c
        · rw [hic] at hmi ⊢
          rw [hmaster]
          exact ⟨hmi, rfl⟩
        · rw [hother' _ hic]
          exact ⟨hmi, rfl⟩
      refine ⟨f, bytes, ?_, hf, hb, hm.2 ▸ List.mem_of_getElem? hki, ?_, ?_⟩
      · rw [hm.1]
        simp
      all_goals rw [hm.1, hmaster]
    have h₂ : Scanned host pageSize { st with chips := s₂ } (l₁ ++ c :: l₂) :=
      h.join hc (by omega) hchips hother' hmaster (hfrom 0 hnum) (hnew 0 hnum).2.1
    have hts : ∀ t ∈ (List.range num).tail.map (c + ·), t < st.allocated ∧
        FromFile host pageSize s₂ (l₁ ++ c :: l₂) t ∧ (s₂.info t).dtbFile = none := by
      intro t ht
      obtain ⟨i, hi, rfl⟩ := List.mem_map.mp ht
      have hi' := List.mem_range.mp (List.mem_of_mem_tail hi)
      have hpos : i ≠ 0 := by
        rintro rfl
        simp [List.range_eq_range', List.tail_range'] at hi
      refine ⟨by omega, hfrom i hi', ?_⟩
      rw [hother' _ (by omega)]
      exact (hnew i hi').2.2
    obtain ⟨l', hscanned, hcount⟩ := addOthers_spec h₂ hts hrun
    exact ⟨l', hscanned, count_middle hcount⟩

/-- One regular file. -/
theorem findFile_spec {path name : Path} (h : Scanned host pageSize st l)
    (hrun : findFile host pageSize path name st count = some (st', count')) :
    ∃ l', Scanned host pageSize st' l' ∧ count' + l.length ≡ count + l'.length [ZMOD 2 ^ 32] := by
  have hversion : ∀ v, Scanned host pageSize { st with version := v } l := fun v =>
    ⟨h.chips, h.lt_allocated, h.fromFile, h.first, h.unwritten⟩
  rw [findFile] at hrun
  split at hrun
  swap
  · obtain ⟨rfl, rfl⟩ := Prod.mk.inj (Option.some.inj hrun)
    exact ⟨l, h, rfl⟩
  dsimp only at hrun
  have h₁ := hversion (if st.version < host.getVersionInfo (path ++ name) then
    (host.getVersionInfo (path ++ name)) else st.version)
  split at hrun
  · -- no records
    split at hrun
    · obtain ⟨rfl, rfl⟩ := Prod.mk.inj (Option.some.inj hrun)
      exact ⟨l, h₁, rfl⟩
    · cases hrun
  · next hkeys =>
    split at hrun
    · obtain ⟨rfl, rfl⟩ := Prod.mk.inj (Option.some.inj hrun)
      exact ⟨l, h₁.alloc _, rfl⟩
    · next bytes hbytes =>
      split at hrun
      · obtain ⟨rfl, rfl⟩ := Prod.mk.inj (Option.some.inj hrun)
        exact ⟨l, h₁.alloc _, rfl⟩
      · next hlen =>
        obtain ⟨⟨s, n⟩, hadd, hrun⟩ := Option.bind_eq_some_iff.mp hrun
        obtain ⟨rfl, rfl⟩ := Prod.mk.inj (Option.some.inj hrun)
        refine addRecords_spec (h₁.alloc _) ?_ (List.length_pos_of_ne_nil hkeys) (le_refl _) hbytes
          ?_ ?_ hadd
        · exact fun hc => (h.lt_allocated _ hc).ne rfl
        · rintro rfl
          exact hlen rfl
        · intro i hi
          rw [info_alloc _ hi]
          exact ⟨rfl, List.getElem?_eq_getElem hi, rfl⟩

theorem scanned_init (host : Host) (pageSize : ℕ) : Scanned host pageSize .init [] := by
  refine ⟨chips_init _, ?_, ?_, ?_, ?_⟩
  all_goals
    intro a ha
    cases ha

/-- A directory: its records join the list, and every subdirectory that cannot be opened is
counted as a record less. -/
theorem findDtb_spec {entries : Entries} {path : Path} (h : Scanned host pageSize st l)
    (hrun : findDtb host pageSize entries path st count = some (st', count')) :
    ∃ l', Scanned host pageSize st' l' ∧
      count' + l.length + entries.unreadable ≡ count + l'.length [ZMOD 2 ^ 32] := by
  induction entries generalizing st l count path st' count' with
  | done =>
    obtain ⟨rfl, rfl⟩ := Prod.mk.inj (Option.some.inj hrun)
    exact ⟨l, h, by simp [Entries.unreadable]⟩
  | reg name rest ih =>
    obtain ⟨⟨st₁, n⟩, hfile, hrest⟩ := Option.bind_eq_some_iff.mp hrun
    obtain ⟨l₁, h₁, hcount₁⟩ := findFile_spec h hfile
    obtain ⟨l', h', hcount'⟩ := ih h₁ hrest
    refine ⟨l', h', ?_⟩
    simp only [Int.ModEq, Entries.unreadable] at hcount₁ hcount' ⊢
    omega
  | dir name entries rest ihe ihr =>
    rw [findDtb] at hrun
    rw [Entries.unreadable]
    split at hrun
    · next hhidden =>
      rw [if_pos hhidden]
      exact ihr h hrun
    · next hhidden =>
      rw [if_neg hhidden]
      obtain ⟨⟨st₁, n⟩, hsub, hrest⟩ := Option.bind_eq_some_iff.mp hrun
      obtain ⟨l₁, h₁, hcount₁⟩ := ihe h hsub
      obtain ⟨l', h', hcount'⟩ := ihr h₁ hrest
      refine ⟨l', h', ?_⟩
      have hi := i32_modEq (count + n)
      simp only [Int.ModEq] at hcount₁ hcount' hi ⊢
      omega
  | locked name rest ih =>
    rw [findDtb] at hrun
    rw [Entries.unreadable]
    split at hrun
    · next hhidden =>
      rw [if_pos hhidden]
      exact ih h hrun
    · next hhidden =>
      rw [if_neg hhidden]
      obtain ⟨l', h', hcount'⟩ := ih h hrun
      refine ⟨l', h', ?_⟩
      have hi := i32_modEq (count + -1)
      simp only [Int.ModEq] at hcount' hi ⊢
      omega
  | other rest ih => exact ih h hrun

end OppoA37.DtbTool
