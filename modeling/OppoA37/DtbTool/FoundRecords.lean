import OppoA37.DtbTool.ReadImage

/-!
# What the scan of `dtbtool` finds

Every record of every `.dtb` file should be in the chip list, and `dtb_count` should say how many
records the list has.

* When the first record of a file is in the list already, the scan goes on to the next file. The
  other records of the file are lost then, unless they come from elsewhere, too: `found_iff`.
* A directory that cannot be opened counts for -1: `countRight_iff`.
-/

namespace OppoA37.DtbTool

variable {host : Host} {pageSize : ℕ} {s s' : ChipState} {st st' : Scan} {l : List ℕ}
  {count count' : ℤ}

/-! ## The files -/

/-- What is known of a file. -/
structure DtbFile where
  /-- its records -/
  keys : List ChipKeys
  /-- it has a size -/
  hasSize : Bool

/-- A file that the scan comes to. -/
def dtbFileAt (host : Host) (filename : Path) : DtbFile where
  keys := host.getChipInfo filename (host.getVersionInfo filename)
  hasSize := (host.file filename).any fun bytes => bytes.length ≠ 0

/-- The `.dtb` files below a directory, in the order of the scan. -/
def dtbFiles (host : Host) : Entries → Path → List DtbFile
  | .done, _ => []
  | .reg name rest, path =>
    (if isDtb name then [dtbFileAt host (path ++ name)] else []) ++ dtbFiles host rest path
  | .dir name entries rest, path =>
    (if name.head? = some '.' then [] else dtbFiles host entries (subdirPath path name)) ++
      dtbFiles host rest path
  | .locked _ rest, path => dtbFiles host rest path
  | .other rest, path => dtbFiles host rest path

/-- A file leads unless its first record is one of an earlier file that leads. -/
def leadingStep (leading : List (List ChipKeys)) (f : DtbFile) : List (List ChipKeys) :=
  if f.hasSize = true ∧ ∀ k ∈ f.keys.head?, ∀ g ∈ leading, k ∉ g then leading ++ [f.keys]
  else leading

/-- The records of the files that lead. -/
def leading (files : List DtbFile) : List (List ChipKeys) := files.foldl leadingStep []

/-! ## The listed keys -/

theorem duplicate_iff (c x : ChipInfo) : duplicate c x = true ↔ c.keys = x.keys := by
  have hmodel : c.pmicModel = x.pmicModel ↔ c.pmicModel 0 = x.pmicModel 0 ∧
      c.pmicModel 1 = x.pmicModel 1 ∧ c.pmicModel 2 = x.pmicModel 2 ∧
      c.pmicModel 3 = x.pmicModel 3 := by
    rw [funext_iff, Fin.forall_fin_succ, Fin.forall_fin_succ, Fin.forall_fin_succ,
      Fin.forall_fin_one]
    rfl
  simp only [duplicate, Bool.and_eq_true, beq_iff_eq, ChipInfo.keys, ChipKeys.mk.injEq, hmodel,
    and_assoc]

/-- The keys of the records in the list. -/
def listed (s : ChipState) (l : List ℕ) : List ChipKeys := l.map fun a => (s.info a).keys

/-- One call of `chip_add`: keys that are listed are refused, and others are listed then. -/
theorem chipAdd_listed (h : Chips s l) (c : ℕ) :
    ((s.info c).keys ∈ listed s l ∧ chipAdd s c = some (s, .error)) ∨
    ((s.info c).keys ∉ listed s l ∧ ∃ s' l', chipAdd s c = some (s', .success) ∧ Chips s' l' ∧
      (∀ a, s'.info a = s.info a) ∧
      ∀ k, k ∈ listed s' l' ↔ k ∈ listed s l ∨ k = (s.info c).keys) := by
  obtain ⟨⟨x, hx, hdup⟩, hadd⟩ | ⟨s', l₁, l₂, rfl, -, hadd, hchips, hinfo⟩ := h.chipAdd c
  · refine Or.inl ⟨List.mem_map.mpr ⟨x, hx, ?_⟩, hadd⟩
    exact ((duplicate_iff _ _).mp hdup).symm
  · refine Or.inr ⟨?_, s', l₁ ++ c :: l₂, hadd, hchips, hinfo, fun k => ?_⟩
    · intro hmem
      obtain ⟨x, hx, hkeys⟩ := List.mem_map.mp hmem
      have hperm : (l₁ ++ c :: l₂).Perm (c :: (l₁ ++ l₂)) := List.perm_middle
      have hdistinct := (hperm.pairwise_iff fun {a b} hab => (duplicate_comm _ _).trans hab).mp
        hchips.distinct
      have hno := (List.pairwise_cons.mp hdistinct).1 x hx
      rw [hinfo, hinfo, (duplicate_iff _ _).mpr hkeys.symm] at hno
      cases hno
    · simp only [listed, hinfo, List.map_append, List.map_cons, List.mem_append, List.mem_cons]
      tauto

/-- The loop over the additional records lists their keys. -/
theorem addOthers_listed {ts : List ℕ} (h : Chips s l)
    (hrun : addOthers ts s count = some (s', count')) :
    ∃ l', Chips s' l' ∧ ∀ k, k ∈ listed s' l' ↔ k ∈ listed s l ∨ k ∈ listed s ts := by
  induction ts generalizing s l count with
  | nil =>
    obtain ⟨rfl, rfl⟩ := Prod.mk.inj (Option.some.inj hrun)
    exact ⟨l, h, fun k => by simp [listed]⟩
  | cons t ts ih =>
    obtain ⟨hmem, hadd⟩ | ⟨-, s₁, l₁, hadd, h₁, hinfo, hlisted⟩ := chipAdd_listed h t
    · simp only [addOthers, hadd] at hrun
      obtain ⟨l', hl', hk⟩ := ih h hrun
      refine ⟨l', hl', fun k => (hk k).trans ?_⟩
      rw [listed, listed, listed, List.map_cons, List.mem_cons]
      constructor
      · tauto
      · rintro (hk | rfl | hk)
        · exact Or.inl hk
        · exact Or.inl hmem
        · exact Or.inr hk
    · simp only [addOthers, hadd] at hrun
      obtain ⟨l', hl', hk⟩ := ih h₁ hrun
      refine ⟨l', hl', fun k => (hk k).trans ?_⟩
      rw [hlisted]
      simp only [listed, hinfo, List.map_cons, List.mem_cons]
      tauto

/-! ## A file, and a directory -/

/-- What is listed are the records of the files that lead. -/
def ListsLeading (s : ChipState) (l : List ℕ) (led : List (List ChipKeys)) : Prop :=
  ∀ k, k ∈ listed s l ↔ ∃ g ∈ led, k ∈ g

/-- Records are allocated behind those in the list. -/
theorem listed_alloc (h : Scanned host pageSize st l) (keys : List ChipKeys) :
    listed (st.alloc keys).chips l = listed st.chips l := by
  refine List.map_congr_left fun a ha => ?_
  have hsame : (st.alloc keys).chips.chips a = st.chips.chips a :=
    if_neg (Nat.not_le.mpr (h.lt_allocated a ha))
  exact congrArg (fun c : ChipInfo => c.unlinked.keys) hsame

/-- The keys of a file that is allocated. -/
theorem listed_range (st : Scan) (keys : List ChipKeys) :
    listed (st.alloc keys).chips ((List.range keys.length).map (st.allocated + ·)) = keys := by
  refine List.ext_getElem (by simp [listed]) fun i hi hi' => ?_
  have hkeys : ((st.alloc keys).chips.info (st.allocated + i)).keys = keys[i] :=
    congrArg ChipInfo.keys (info_alloc st hi')
  simpa [listed] using hkeys

/-- The records of a file with a size. -/
theorem addRecords_listed {f : Path} {bytes : List UInt8} {c num : ℕ} (h : Chips s l)
    (hnum : 0 < num) (hrun : addRecords pageSize f bytes c num s count = some (s', count')) :
    ∃ l', Chips s' l' ∧ ∀ k, k ∈ listed s' l' ↔ k ∈ listed s l ∨
      (s.info c).keys ∉ listed s l ∧ k ∈ listed s ((List.range num).map (c + ·)) := by
  obtain ⟨hmem, hadd⟩ | ⟨hno, s₁, l₁, hadd, h₁, hinfo, hlisted⟩ := chipAdd_listed h c
  · rw [addRecords, hadd] at hrun
    obtain ⟨rfl, rfl⟩ := Prod.mk.inj (Option.some.inj hrun)
    exact ⟨l, h, fun k => by tauto⟩
  · rw [addRecords, hadd] at hrun
    dsimp only [Option.bind_eq_bind, Option.bind_some] at hrun
    generalize hs₂ : (s₁.write c fun i => { i with
      dtbSize := UInt32.ofNat (bytes.length + (pageSize - bytes.length % pageSize)) }).write c
      (fun i => { i with dtbFile := some f }) = s₂ at hrun
    -- the file and its size are not among the keys
    have hsame : ∀ a, (s₂.chips a).keys = (s₁.chips a).keys ∧ s₂.next a = s₁.next a ∧
        s₂.prev a = s₁.prev a := by
      intro a
      by_cases hac : a = c
      · subst hac
        simp [← hs₂, ChipInfo.keys, ChipState.next, ChipState.prev]
      · simp [← hs₂, hac, ChipState.next, ChipState.prev]
    have hkeys : ∀ l, listed s₂ l = listed s l := by
      intro l
      refine List.map_congr_left fun a _ => ?_
      rw [← hinfo a]
      exact (hsame a).1
    have h₂ : Chips s₂ l₁ :=
      h₁.congr (by rw [← hs₂]; rfl) (by rw [← hs₂]; rfl) fun a _ => hsame a
    obtain ⟨l', hl', hk⟩ := addOthers_listed h₂ hrun
    refine ⟨l', hl', fun k => ?_⟩
    have hrange : List.range num = 0 :: (List.range num).tail := by
      obtain ⟨m, rfl⟩ := Nat.exists_eq_add_one.mpr hnum
      rw [List.range_succ_eq_map]
      rfl
    have hfirst : k ∈ listed s ((List.range num).map (c + ·)) ↔
        k = (s.info c).keys ∨ k ∈ listed s ((List.range num).tail.map (c + ·)) := by
      rw [hrange]
      simp [listed]
    have hold : k ∈ listed s₂ l₁ ↔ k ∈ listed s l ∨ k = (s.info c).keys := by
      rw [← hlisted, hkeys]
      simp only [listed, hinfo]
    rw [hk, hold, hkeys, hfirst]
    tauto

/-- A file whose first record is not listed yet is one more that leads. -/
theorem ListsLeading.step {led : List (List ChipKeys)} {f : DtbFile} {l' : List ℕ}
    (hled : ListsLeading s l led) (hk : ∀ k, k ∈ listed s' l' ↔ k ∈ listed s l ∨
      f.hasSize = true ∧ (∀ k₀ ∈ f.keys.head?, k₀ ∉ listed s l) ∧ k ∈ f.keys) :
    ListsLeading s' l' (leadingStep led f) := by
  intro k
  have hfirst : (∀ k₀ ∈ f.keys.head?, k₀ ∉ listed s l) ↔
      ∀ k₀ ∈ f.keys.head?, ∀ g ∈ led, k₀ ∉ g := by
    refine forall₂_congr fun k₀ _ => ?_
    rw [hled k₀]
    simp only [not_exists, not_and]
  rw [hk, hfirst, hled k, leadingStep]
  split
  · next hlead =>
    simp only [List.mem_append, List.mem_singleton, or_and_right, exists_or, exists_eq_left]
    exact or_congr_right ⟨fun h => h.2.2, fun h => ⟨hlead.1, hlead.2, h⟩⟩
  · next hno =>
    exact or_iff_left fun h => hno ⟨h.1, h.2.1⟩

/-- The first record of a file is the first that is allocated for it. -/
theorem head?_eq_alloc (st : Scan) {keys : List ChipKeys} (hkeys : keys ≠ []) :
    keys.head? = some ((st.alloc keys).chips.info st.allocated).keys := by
  have hpos := List.length_pos_of_ne_nil hkeys
  have hinfo := info_alloc st hpos
  rw [Nat.add_zero] at hinfo
  rw [hinfo, List.head?_eq_getElem?, List.getElem?_eq_getElem hpos]
  rfl

/-- **One regular file.** -/
theorem findFile_listed {path name : Path} {led : List (List ChipKeys)}
    (h : Scanned host pageSize st l) (hled : ListsLeading st.chips l led)
    (hrun : findFile host pageSize path name st count = some (st', count')) :
    ∃ l', Scanned host pageSize st' l' ∧ ListsLeading st'.chips l'
      ((if isDtb name then [dtbFileAt host (path ++ name)] else []).foldl leadingStep led) := by
  obtain ⟨l', hl', -⟩ := findFile_spec h hrun
  refine ⟨l', hl', ?_⟩
  rw [findFile] at hrun
  split at hrun
  swap
  · next hdtb =>
    obtain ⟨rfl, rfl⟩ := Prod.mk.inj (Option.some.inj hrun)
    rw [if_neg hdtb, ← h.chips.unique hl'.chips]
    exact hled
  next hdtb =>
  rw [if_pos hdtb, List.foldl_cons, List.foldl_nil]
  -- the version has nothing to do with the list
  dsimp only at hrun
  generalize hst₁ : ({ st with version := if st.version < host.getVersionInfo (path ++ name) then
    (host.getVersionInfo (path ++ name)) else st.version } : Scan) = st₁ at hrun
  have hchip : st.allocated = st₁.allocated := by rw [← hst₁]
  rw [hchip] at hrun
  have h₁ : Scanned host pageSize st₁ l := by
    rw [← hst₁]
    exact ⟨h.chips, h.lt_allocated, h.fromFile, h.first, h.unwritten⟩
  have hled₁ : ListsLeading st₁.chips l led := by
    rw [← hst₁]
    exact hled
  apply hled₁.step
  split at hrun
  · next hkeys =>
    -- no records
    split at hrun
    · obtain ⟨rfl, rfl⟩ := Prod.mk.inj (Option.some.inj hrun)
      intro k
      simp [dtbFileAt, hkeys, h₁.chips.unique hl'.chips]
    · cases hrun
  next hkeys =>
  generalize hk : host.getChipInfo (path ++ name) (host.getVersionInfo (path ++ name)) = keys
    at hrun hkeys
  have hold := listed_alloc h₁ keys
  have h₂ := h₁.alloc keys
  -- a file without a size
  have hskipped : (dtbFileAt host (path ++ name)).hasSize = false →
      st' = st₁.alloc keys → ∀ k, k ∈ listed st'.chips l' ↔ k ∈ listed st₁.chips l ∨
        (dtbFileAt host (path ++ name)).hasSize = true ∧
        (∀ k₀ ∈ (dtbFileAt host (path ++ name)).keys.head?, k₀ ∉ listed st₁.chips l) ∧
        k ∈ (dtbFileAt host (path ++ name)).keys := by
    rintro hempty rfl k
    rw [← h₂.chips.unique hl'.chips, hold, hempty]
    simp
  split at hrun
  · next hfile =>
    exact hskipped (by simp [dtbFileAt, hfile]) (Prod.mk.inj (Option.some.inj hrun)).1.symm
  · next bytes hbytes =>
    split at hrun
    · next hlen =>
      obtain rfl := List.eq_nil_of_length_eq_zero hlen
      exact hskipped (by simp [dtbFileAt, hbytes]) (Prod.mk.inj (Option.some.inj hrun)).1.symm
    · next hlen =>
      obtain ⟨⟨s₂, n⟩, hadd, hrun⟩ := Option.bind_eq_some_iff.mp hrun
      obtain ⟨rfl, rfl⟩ := Prod.mk.inj (Option.some.inj hrun)
      obtain ⟨l₂, hl₂, hlisted⟩ := addRecords_listed h₂.chips
        (List.length_pos_of_ne_nil hkeys) hadd
      intro k
      have hfirst : (dtbFileAt host (path ++ name)).keys.head? =
          some ((st₁.alloc keys).chips.info st₁.allocated).keys := by
        rw [dtbFileAt, hk]
        exact head?_eq_alloc st₁ hkeys
      have hsize : (dtbFileAt host (path ++ name)).hasSize = true := by
        simpa [dtbFileAt, hbytes] using hlen
      rw [← hl₂.unique hl'.chips, hlisted, hold, listed_range, hfirst, hsize]
      simp [dtbFileAt, hk]

/-- **A directory**, from what is listed before. -/
theorem findDtb_listed {entries : Entries} {path : Path} {led : List (List ChipKeys)}
    (h : Scanned host pageSize st l) (hled : ListsLeading st.chips l led)
    (hrun : findDtb host pageSize entries path st count = some (st', count')) :
    ∃ l', Scanned host pageSize st' l' ∧
      ListsLeading st'.chips l' ((dtbFiles host entries path).foldl leadingStep led) := by
  induction entries generalizing st l count path st' count' led with
  | done =>
    obtain ⟨rfl, rfl⟩ := Prod.mk.inj (Option.some.inj hrun)
    exact ⟨l, h, hled⟩
  | reg name rest ih =>
    obtain ⟨⟨st₁, n⟩, hfile, hrest⟩ := Option.bind_eq_some_iff.mp hrun
    obtain ⟨l₁, h₁, hled₁⟩ := findFile_listed h hled hfile
    rw [dtbFiles, List.foldl_append]
    exact ih h₁ hled₁ hrest
  | dir name entries rest ihe ihr =>
    rw [findDtb] at hrun
    rw [dtbFiles, List.foldl_append]
    split at hrun
    · next hhidden =>
      rw [if_pos hhidden]
      exact ihr h hled hrun
    · next hhidden =>
      rw [if_neg hhidden]
      obtain ⟨⟨st₁, n⟩, hsub, hrest⟩ := Option.bind_eq_some_iff.mp hrun
      obtain ⟨l₁, h₁, hled₁⟩ := ihe h hled hsub
      exact ihr h₁ hled₁ hrest
  | locked name rest ih =>
    rw [findDtb] at hrun
    split at hrun
    · exact ih h hled hrun
    · exact ih h hled hrun
  | other rest ih => exact ih h hled hrun

/-! ## Records that are lost -/

/-- The key tuple of a board: everything but the `oppoId`. -/
def ChipKeys.tuple (k : ChipKeys) : UInt32 × UInt32 × UInt32 × UInt32 × (Fin 4 → UInt32) :=
  (k.chipset, k.platform, k.subtype, k.revNum, k.pmicModel)

/-- The files below the input directory. -/
def scannedFiles (host : Host) (opts : Options) : Option Entries → List DtbFile
  | none => []
  | some entries => dtbFiles host entries opts.inputDir

/-- The key tuple of every record of every file is in the list. -/
def NoneLost (files : List DtbFile) (s : ChipState) (l : List ℕ) : Prop :=
  ∀ f ∈ files, ∀ k ∈ f.keys, ∃ a ∈ l, (s.info a).keys.tuple = k.tuple

/-- Every key tuple is one of a file that leads. -/
def Covered (files : List DtbFile) : Prop :=
  ∀ f ∈ files, ∀ k ∈ f.keys, ∃ g ∈ leading files, ∃ k' ∈ g, k'.tuple = k.tuple

/-- **No record is lost** if and only if the files that lead have them all. -/
theorem found_iff {host : Host} {opts : Options} {input : Option Entries} {st : Scan}
    {dtbCount : ℤ} (hscan : scan host opts input = some (st, dtbCount)) :
    ∃ l, Scanned host opts.pageSize st l ∧
      (NoneLost (scannedFiles host opts input) st.chips l ↔
        Covered (scannedFiles host opts input)) := by
  obtain ⟨l, hl, hled⟩ : ∃ l, Scanned host opts.pageSize st l ∧
      ListsLeading st.chips l (leading (scannedFiles host opts input)) := by
    have hinit : ListsLeading Scan.init.chips [] [] := by
      intro k
      simp [listed]
    cases input with
    | none =>
      obtain ⟨rfl, -⟩ := Prod.mk.inj (Option.some.inj hscan)
      exact ⟨[], scanned_init host opts.pageSize, hinit⟩
    | some entries => exact findDtb_listed (scanned_init host opts.pageSize) hinit hscan
  refine ⟨l, hl, forall₂_congr fun f _ => forall₂_congr fun k _ => ?_⟩
  constructor
  · rintro ⟨a, ha, htuple⟩
    obtain ⟨g, hg, hmem⟩ := (hled _).mp (List.mem_map_of_mem ha)
    exact ⟨g, hg, _, hmem, htuple⟩
  · rintro ⟨g, hg, k', hk', htuple⟩
    obtain ⟨a, ha, rfl⟩ := List.mem_map.mp ((hled k').mpr ⟨g, hg, hk'⟩)
    exact ⟨a, ha, htuple⟩

/-- A host with a file of one record, and others with this record and one more. -/
def shadowing : Host where
  getVersionInfo _ := 2
  getChipInfo filename _ :=
    if filename = "/a.dtb".toList then [⟨1, 1, 1, 1, fun _ => 0, 1⟩]
    else [⟨1, 1, 1, 1, fun _ => 0, 1⟩, ⟨2, 1, 1, 1, fun _ => 0, 1⟩]
  file _ := some [7]
  creates := true
  beyond _ := 0

/-- Two files. -/
def twoFiles : Entries := .reg "a.dtb".toList (.reg "b.dtb".toList .done)

theorem found_twice : ∃ st dtbCount, scan shadowing smallPages (some twoFiles) =
      some (st, dtbCount) ∧
    ∃ l, Scanned shadowing 12 st l ∧
      (NoneLost (scannedFiles shadowing smallPages (some twoFiles)) st.chips l ↔
        Covered (scannedFiles shadowing smallPages (some twoFiles))) := by
  have hsome : (scan shadowing smallPages (some twoFiles)).isSome := by decide +kernel
  obtain ⟨⟨st, dtbCount⟩, hscan⟩ := Option.isSome_iff_exists.mp hsome
  exact ⟨st, dtbCount, hscan, found_iff hscan⟩

/-- The second file begins with the record of the first one, and its other record is lost. -/
theorem shadowed_lost : ∃ st dtbCount, scan shadowing smallPages (some twoFiles) =
      some (st, dtbCount) ∧
    ∀ l, Scanned shadowing 12 st l →
      ¬ NoneLost (scannedFiles shadowing smallPages (some twoFiles)) st.chips l := by
  have hkeys : (scan shadowing smallPages (some twoFiles)).map (fun r =>
      listed r.1.chips (chipsFrom r.1.chips r.1.chips.added r.1.chips.chipList)) =
      some [⟨1, 1, 1, 1, fun _ => 0, 1⟩] := by decide +kernel
  obtain ⟨⟨st, dtbCount⟩, hscan, hlisted⟩ := Option.map_eq_some_iff.mp hkeys
  refine ⟨st, dtbCount, hscan, fun l hl hnone => ?_⟩
  rw [hl.chips.count, hl.chips.head, chipsFrom_linked hl.chips.linked] at hlisted
  have hfile : dtbFileAt shadowing "/b.dtb".toList ∈
      scannedFiles shadowing smallPages (some twoFiles) :=
    List.mem_cons_of_mem _ List.mem_cons_self
  obtain ⟨a, ha, htuple⟩ := hnone _ hfile ⟨2, 1, 1, 1, fun _ => 0, 1⟩
    (List.mem_cons_of_mem _ List.mem_cons_self)
  have hmem : (st.chips.info a).keys ∈ listed st.chips l := List.mem_map_of_mem ha
  rw [hlisted, List.mem_singleton] at hmem
  rw [hmem] at htuple
  exact absurd (congrArg Prod.fst htuple) (by decide)

/-! ## The count -/

theorem i32_i32 (x : ℤ) : i32 (i32 x) = i32 x := Int.bmod_bmod ..

/-- Counting stays within an `int`. -/
theorem addOthers_int {ts : List ℕ} (h : i32 count = count)
    (hrun : addOthers ts s count = some (s', count')) : i32 count' = count' := by
  induction ts generalizing s count with
  | nil =>
    obtain ⟨-, rfl⟩ := Prod.mk.inj (Option.some.inj hrun)
    exact h
  | cons t ts ih =>
    obtain ⟨⟨s₁, rc⟩, -, hrest⟩ := Option.bind_eq_some_iff.mp hrun
    cases rc with
    | success => exact ih (i32_i32 _) hrest
    | error => exact ih h hrest

theorem findFile_int {path name : Path} (h : i32 count = count)
    (hrun : findFile host pageSize path name st count = some (st', count')) :
    i32 count' = count' := by
  simp only [findFile] at hrun
  split at hrun
  · split at hrun
    · split at hrun
      · obtain ⟨-, rfl⟩ := Prod.mk.inj (Option.some.inj hrun)
        exact h
      · cases hrun
    · split at hrun
      · obtain ⟨-, rfl⟩ := Prod.mk.inj (Option.some.inj hrun)
        exact h
      · split at hrun
        · obtain ⟨-, rfl⟩ := Prod.mk.inj (Option.some.inj hrun)
          exact h
        · obtain ⟨⟨s₁, n⟩, hadd, hlast⟩ := Option.bind_eq_some_iff.mp hrun
          obtain ⟨-, rfl⟩ := Prod.mk.inj (Option.some.inj hlast)
          obtain ⟨⟨s₂, rc⟩, -, hothers⟩ := Option.bind_eq_some_iff.mp hadd
          cases rc with
          | success => exact addOthers_int (i32_i32 _) hothers
          | error =>
            obtain ⟨-, rfl⟩ := Prod.mk.inj (Option.some.inj hothers)
            exact h
  · obtain ⟨-, rfl⟩ := Prod.mk.inj (Option.some.inj hrun)
    exact h

theorem findDtb_int {entries : Entries} {path : Path} (h : i32 count = count)
    (hrun : findDtb host pageSize entries path st count = some (st', count')) :
    i32 count' = count' := by
  induction entries generalizing st count path st' count' with
  | done =>
    obtain ⟨-, rfl⟩ := Prod.mk.inj (Option.some.inj hrun)
    exact h
  | reg name rest ih =>
    obtain ⟨⟨st₁, n⟩, hfile, hrest⟩ := Option.bind_eq_some_iff.mp hrun
    exact ih (findFile_int h hfile) hrest
  | dir name entries rest ihe ihr =>
    rw [findDtb] at hrun
    split at hrun
    · exact ihr h hrun
    · obtain ⟨⟨st₁, n⟩, -, hrest⟩ := Option.bind_eq_some_iff.mp hrun
      exact ihr (i32_i32 _) hrest
  | locked name rest ih =>
    rw [findDtb] at hrun
    split at hrun
    · exact ih h hrun
    · exact ih (i32_i32 _) hrun
  | other rest ih => exact ih h hrun

/-- `dtb_count` is right for a list of so many records. -/
structure CountRight (dtbCount : ℤ) (n : ℕ) : Prop where
  /-- it is their number, as an `int` -/
  count : dtbCount = i32 n
  /-- and that is the number itself if an `int` holds it -/
  fits : n < 2 ^ 31 → dtbCount = n
  /-- the header has their number -/
  header : ∀ version, (header version dtbCount).file =
    magic ++ (le32 (UInt32.ofNat version) ++ le32 (UInt32.ofNat n))
  /-- `main` finds no DTB if and only if there is none -/
  check : n < 2 ^ 31 → (dtbCount = 0 ↔ n = 0)

/-- **The count is right** if and only if the directories that cannot be opened are a multiple of
`2 ^ 32`. -/
theorem countRight_iff {host : Host} {opts : Options} {input : Option Entries} {st : Scan}
    {dtbCount : ℤ} (hscan : scan host opts input = some (st, dtbCount)) :
    ∃ l, Scanned host opts.pageSize st l ∧
      (CountRight dtbCount l.length ↔ 2 ^ 32 ∣ unreadable input) := by
  obtain ⟨l, hl, hcount⟩ := scan_spec hscan
  have hint : i32 dtbCount = dtbCount := by
    cases input with
    | none =>
      obtain ⟨-, rfl⟩ := Prod.mk.inj (Option.some.inj hscan)
      exact i32_of_lt (by norm_num) (by norm_num)
    | some entries => exact findDtb_int (i32_of_lt (by norm_num) (by norm_num)) hscan
  refine ⟨l, hl, ?_⟩
  constructor
  · intro hright
    have hsame : dtbCount ≡ l.length [ZMOD 2 ^ 32] := by
      rw [hright.count]
      exact i32_modEq _
    have hzero : (unreadable input : ℤ) ≡ 0 [ZMOD 2 ^ 32] := by
      rw [Int.ModEq] at hcount hsame ⊢
      omega
    exact_mod_cast Int.modEq_zero_iff_dvd.mp hzero
  · intro hdvd
    have hzero : (unreadable input : ℤ) ≡ 0 [ZMOD 2 ^ 32] :=
      Int.modEq_zero_iff_dvd.mpr (by exact_mod_cast hdvd)
    have hsame : dtbCount ≡ l.length [ZMOD 2 ^ 32] := by
      have h := (hzero.symm.add_left dtbCount).trans hcount
      rwa [add_zero] at h
    have hcount' : dtbCount = i32 l.length := hint.symm.trans (i32_congr hsame)
    have hfits : l.length < 2 ^ 31 → dtbCount = l.length := by
      intro hlt
      exact hcount'.trans (i32_of_lt (by omega) (by exact_mod_cast hlt))
    refine ⟨hcount', hfits, fun version => ?_, fun hlt => ?_⟩
    · have hword : u32 dtbCount = UInt32.ofNat l.length := by
        rw [← u32_natCast, u32, u32, hsame]
      rw [header_file, hword]
    · rw [hfits hlt]
      exact Int.natCast_eq_zero

theorem countRight_readable : ∃ st dtbCount, scan twoRecords smallPages (some readable) =
      some (st, dtbCount) ∧
    ∃ l, Scanned twoRecords 12 st l ∧
      (CountRight dtbCount l.length ↔ 2 ^ 32 ∣ unreadable (some readable)) := by
  have hsome : (scan twoRecords smallPages (some readable)).isSome := by decide +kernel
  obtain ⟨⟨st, dtbCount⟩, hscan⟩ := Option.isSome_iff_exists.mp hsome
  exact ⟨st, dtbCount, hscan, countRight_iff hscan⟩

/-- Two subdirectories that cannot be opened make nothing of two records: `main` says that it has
found no DTB, and writes no image. -/
theorem countRight_lockedOut : ∃ st dtbCount,
    scan twoRecords smallPages (some (.locked ['x'] (.locked ['y'] readable))) =
      some (st, dtbCount) ∧
    main twoRecords smallPages (some (.locked ['x'] (.locked ['y'] readable))) =
      some ⟨.success, none⟩ ∧
    ∀ l, Scanned twoRecords 12 st l → l.length = 2 ∧ ¬ CountRight dtbCount l.length := by
  have hresult : (scan twoRecords smallPages
      (some (.locked ['x'] (.locked ['y'] readable)))).map (fun r => (r.1.chips.added, r.2)) =
      some (2, 0) := by decide +kernel
  obtain ⟨⟨st, dtbCount⟩, hscan, hboth⟩ := Option.map_eq_some_iff.mp hresult
  obtain ⟨hadded, rfl⟩ := Prod.mk.inj hboth
  refine ⟨st, _, hscan, by decide +kernel, fun l hl => ?_⟩
  have hlen : l.length = 2 := hl.chips.count.symm.trans hadded
  refine ⟨hlen, fun hright => ?_⟩
  have hzero := (hright.check (by omega)).mp rfl
  omega

end OppoA37.DtbTool
