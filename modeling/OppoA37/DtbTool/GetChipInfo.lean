import OppoA37.DtbTool.Cells
import OppoA37.DtbTool.FindDtb

/-!
# `getChipInfo`

A device tree says for which boards it is in the properties `qcom,msm-id`, `qcom,board-id` and, from
version 3 on, `qcom,pmic-id`. `getChipInfo` collects the tuples of each property from all lines of
the decompiled text, and makes one record for each combination. The first record is the master of
all of them.

`getChipInfo_spec` says that the records are the product of the complete tuples, for texts whose
property lines hold nothing but cells, and that the loops come to an end on every text.

Memory for the records is always there. A device tree has less than 4 GiB, so that the counters of
its tuples are natural numbers here; when `popen` fails, the text is empty.
-/

namespace OppoA37.DtbTool

open Text

/-! ## The tags -/

/-- `QCDT_DT_TAG`, which `dt_tag` is unless the command line says otherwise. -/
def QCDT_DT_TAG : List Char := "qcom,msm-id = <".toList

/-- `QCDT_BOARD_TAG` -/
def QCDT_BOARD_TAG : List Char := "qcom,board-id = <".toList

/-- `QCDT_PMIC_TAG` -/
def QCDT_PMIC_TAG : List Char := "qcom,pmic-id = <".toList

/-- What `getline` reads until the end of the text: every line with its end, if it has one. -/
def getlines (text : List Char) : List (List Char) :=
  let lines := text.splitOn '\n'
  lines.dropLast.map (· ++ ['\n']) ++ lines.getLast?.toList.filter (· ≠ [])

/-! ## The lists -/

/-- `struct chipId_t` -/
structure ChipId where
  /-- `chipset` -/
  chipset : UInt32
  /-- `revNum` -/
  revNum : UInt32

/-- `struct chipSt_t` -/
structure ChipSt where
  /-- `platform` -/
  platform : UInt32
  /-- `subtype` -/
  subtype : UInt32
  /-- `oppoId` -/
  oppoId : UInt32

/-- `struct chipPt_t` -/
structure ChipPt where
  /-- `pmic0` -/
  pmic0 : UInt32
  /-- `pmic1` -/
  pmic1 : UInt32
  /-- `pmic2` -/
  pmic2 : UInt32
  /-- `pmic3` -/
  pmic3 : UInt32

/-- The cells of a `chipId_t`. -/
def ChipId.ofData (data : List UInt32) : ChipId := ⟨data.getD 0 0, data.getD 1 0⟩

/-- The cells of a `chipSt_t`. -/
def ChipSt.ofData (data : List UInt32) : ChipSt := ⟨data.getD 0 0, data.getD 1 0, data.getD 2 0⟩

/-- The cells of a `chipPt_t`. -/
def ChipPt.ofData (data : List UInt32) : ChipPt :=
  ⟨data.getD 0 0, data.getD 1 0, data.getD 2 0, data.getD 3 0⟩

/-- A list along `t_next`: its first element stays the first, and a new one comes right behind. -/
def link {β : Type} (l : List β) (b : β) : List β :=
  match l with
  | [] => [b]
  | first :: rest => first :: b :: rest

/-- A record joins the others, which are known by their addresses. The first one is the master. -/
def addChip (chips : List (ℕ × ChipInfo)) (k : ChipKeys) : List (ℕ × ChipInfo) :=
  match chips with
  | [] => [(0, k.toInfo 0)]
  | chip :: rest => chip :: (rest.length + 1, k.toInfo chip.1) :: rest

/-! ## The properties -/

section Properties

variable {α : Type}

/-- One property of a line: what is added to is returned, with `entryEnded`, and the line as it is
then. -/
def readProperty (tag : List Char) (size : ℕ) (add : α → List UInt32 → α) (fuel : ℕ)
    (line : List Char) (a : α) (entryEnded : Bool) : Option ((α × Bool) × List Char) :=
  match find tag line with
  | none => some ((a, entryEnded), line)
  | some k => do
    let pos := k + tag.length
    let (a, cur) ← tupleLoop size add fuel ⟨line.take pos, line.drop pos⟩ a
    some ((a, true), cString cur.line)

end Properties

/-- What the loop over the lines collects; `count1`, `count2` and `count3` are the lengths. -/
structure Properties where
  /-- `chipId` -/
  chipId : List ChipId
  /-- `chipSt` -/
  chipSt : List ChipSt
  /-- `chipPt` -/
  chipPt : List ChipPt
  /-- `entryEndedDT` -/
  entryEndedDT : Bool
  /-- `entryEndedST` -/
  entryEndedST : Bool
  /-- `entryEndedPT` -/
  entryEndedPT : Bool

/-- A turn of the loop over the lines, for versions 2 and 3. -/
def readLine (dtTag : List Char) (fuel : ℕ) (p : Properties) (line : List Char) :
    Option Properties := do
  let line := cString line
  let (ids, line) ← readProperty dtTag 2 (fun l data => link l (ChipId.ofData data)) fuel line
    p.chipId p.entryEndedDT
  let (sts, line) ← readProperty QCDT_BOARD_TAG 3 (fun l data => link l (ChipSt.ofData data)) fuel
    line p.chipSt p.entryEndedST
  let (pts, _) ← readProperty QCDT_PMIC_TAG 4 (fun l data => link l (ChipPt.ofData data)) fuel line
    p.chipPt p.entryEndedPT
  some ⟨ids.1, sts.1, pts.1, ids.2, sts.2, pts.2⟩

/-! ## The records -/

/-- The keys of a record for versions 2 and 3. -/
def keysOf (cId : ChipId) (cSt : ChipSt) (pmicModel : Fin 4 → UInt32) : ChipKeys :=
  ⟨cId.chipset, cSt.platform, cSt.subtype, cId.revNum, pmicModel, cSt.oppoId⟩

/-- `pmic_model` -/
def ChipPt.models (cPt : ChipPt) : Fin 4 → UInt32 := ![cPt.pmic0, cPt.pmic1, cPt.pmic2, cPt.pmic3]

/-- The loops that make the records. -/
def makeChips (version : ℕ) (p : Properties) : List (ℕ × ChipInfo) :=
  p.chipId.foldl (fun chips cId =>
    p.chipSt.foldl (fun chips cSt =>
      if version = 3 then
        p.chipPt.foldl (fun chips cPt => addChip chips (keysOf cId cSt cPt.models)) chips
      else addChip chips (keysOf cId cSt fun _ => 0)) chips) []

/-- What `getChipInfo` returns unless it is `NULL`. -/
structure Found where
  /-- the records along `t_next`, with their addresses -/
  chips : List (ℕ × ChipInfo)
  /-- `*num` -/
  num : ℕ

/-- What may be read before it is written. -/
structure Uninitialised where
  /-- the flags -/
  entryEndedDT : Bool
  entryEndedST : Bool
  entryEndedPT : Bool
  /-- the `oppoId` of the records for version 1 -/
  oppoId : ℕ → UInt32

/-- The keys of a record for version 1. -/
def keysOfTriple (memory : Uninitialised) (chips : List (ℕ × ChipInfo)) (data : List UInt32) :
    ChipKeys :=
  ⟨data.getD 0 0, data.getD 1 0, 0, data.getD 2 0, fun _ => 0, memory.oppoId chips.length⟩

/-- `getChipInfo` for version 1: only the first line with the tag counts. The inner `none` is
`NULL`. -/
def getChipInfo1 (dtTag : List Char) (fuel : ℕ) (memory : Uninitialised) :
    List (List Char) → Option (Option Found)
  | [] => some none
  | line :: lines =>
    match find dtTag (cString line) with
    | none => getChipInfo1 dtTag fuel memory lines
    | some k => do
      let pos := k + dtTag.length
      let (chips, _) ← tupleLoop 3
        (fun chips data => addChip chips (keysOfTriple memory chips data)) fuel
        ⟨(cString line).take pos, (cString line).drop pos⟩ []
      some (if chips = [] then none else some ⟨chips, chips.length⟩)

/-- The part of `getChipInfo` behind the loop over the lines. -/
def finish (version : ℕ) (p : Properties) : Option Found :=
  if p.chipId.length = 0 then none
  else if p.chipSt.length = 0 then none
  else if p.chipPt.length = 0 ∧ version = 3 then none
  else
    let chips := makeChips version p
    let entryEndedPT := if version = 2 then true else p.entryEndedPT
    if p.entryEndedST ∧ p.entryEndedDT ∧ entryEndedPT then some ⟨chips, p.chipId.length⟩ else none

/-- `getChipInfo` on the text that `dtc` prints, with at most so many turns for each loop over
tuples; the inner `none` is `NULL`. -/
def getChipInfo (dtTag : List Char) (fuel : ℕ) (memory : Uninitialised) (msmversion : ℕ)
    (text : List Char) : Option (Option Found) :=
  let p : Properties :=
    ⟨[], [], [], memory.entryEndedDT, memory.entryEndedST, memory.entryEndedPT⟩
  if msmversion = 1 then getChipInfo1 dtTag fuel memory (getlines text)
  else if msmversion = 2 ∨ msmversion = 3 then
    ((getlines text).foldlM (readLine dtTag fuel) p).map (finish msmversion)
  else some (finish msmversion p)

/-! ## The lists are complete -/

section Lists

variable {β γ : Type}

/-- A new element is one more. -/
theorem link_perm (l : List β) (b : β) : (link l b).Perm (b :: l) := by
  cases l with
  | nil => exact List.Perm.refl _
  | cons first rest => exact List.Perm.swap b first rest

/-- The elements that were added. -/
theorem foldl_link_perm (f : γ → β) (xs : List γ) (l : List β) :
    (xs.foldl (fun l x => link l (f x)) l).Perm (l ++ xs.map f) := by
  induction xs generalizing l with
  | nil => simp
  | cons x xs ih =>
    refine (ih (link l (f x))).trans (((link_perm l (f x)).append_right _).trans ?_)
    rw [List.map_cons]
    exact List.perm_middle.symm

/-- Lists with the same elements are empty together. -/
theorem eq_nil_iff_of_perm {l l' : List β} (h : l.Perm l') : l = [] ↔ l' = [] := by
  rw [← List.length_eq_zero_iff, h.length_eq, List.length_eq_zero_iff]

/-- Records with these keys, all of which have the first one for their master. -/
structure Records (chips : List (ℕ × ChipInfo)) (ks : List ChipKeys) : Prop where
  /-- one record for each -/
  keys : (chips.map fun chip => chip.2.keys).Perm ks
  /-- the records are different ones -/
  nodup : (chips.map Prod.fst).Nodup
  /-- the first one is the master -/
  master : ∀ first ∈ chips.head?, ∀ chip ∈ chips, chip.2.master = first.1

/-- Addresses are numbers of records. -/
def Numbered (chips : List (ℕ × ChipInfo)) : Prop :=
  (chips.map Prod.fst).Nodup ∧ (∀ chip ∈ chips, chip.1 < chips.length) ∧
    ∀ first ∈ chips.head?, ∀ chip ∈ chips, chip.2.master = first.1

/-- One more record. -/
theorem Numbered.addChip {chips : List (ℕ × ChipInfo)} (h : Numbered chips) (k : ChipKeys) :
    Numbered (addChip chips k) ∧
      (addChip chips k).map (fun chip => chip.2.keys) =
        link (chips.map fun chip => chip.2.keys) k := by
  obtain ⟨hnodup, hlt, hmaster⟩ := h
  rcases chips with _ | ⟨first, rest⟩
  · refine ⟨⟨by simp [DtbTool.addChip], by simp [DtbTool.addChip], ?_⟩, rfl⟩
    simp [DtbTool.addChip, ChipKeys.toInfo]
  refine ⟨⟨?_, ?_, ?_⟩, rfl⟩
  · -- the new address is behind all others
    have hnew : rest.length + 1 ∉ (first :: rest).map Prod.fst := by
      intro hmem
      obtain ⟨chip, hchip, heq⟩ := List.mem_map.mp hmem
      have h := hlt chip hchip
      rw [List.length_cons] at h
      omega
    have hperm : (first.1 :: (rest.length + 1) :: rest.map Prod.fst).Perm
        ((rest.length + 1) :: first.1 :: rest.map Prod.fst) := List.Perm.swap _ _ _
    exact hperm.nodup_iff.mpr (List.nodup_cons.mpr ⟨hnew, hnodup⟩)
  · intro chip hchip
    have hlength : (DtbTool.addChip (first :: rest) k).length = (first :: rest).length + 1 := rfl
    rw [hlength]
    rcases List.mem_cons.mp hchip with rfl | hchip
    · exact Nat.lt_succ_of_lt (hlt _ List.mem_cons_self)
    · rcases List.mem_cons.mp hchip with rfl | hchip
      · simp
      · exact Nat.lt_succ_of_lt (hlt _ (List.mem_cons_of_mem _ hchip))
  · intro first' hfirst chip hchip
    obtain rfl : first = first' := by simpa [DtbTool.addChip] using hfirst
    rcases List.mem_cons.mp hchip with rfl | hchip
    · exact hmaster _ rfl _ List.mem_cons_self
    · rcases List.mem_cons.mp hchip with rfl | hchip
      · rfl
      · exact hmaster _ rfl _ (List.mem_cons_of_mem _ hchip)

/-- Records for these keys. -/
theorem records_foldl (ks : List ChipKeys) : Records (ks.foldl addChip []) ks := by
  have hrun : ∀ chips, Numbered chips → Numbered (ks.foldl addChip chips) ∧
      (ks.foldl addChip chips).map (fun chip => chip.2.keys) =
        ks.foldl link (chips.map fun chip => chip.2.keys) := by
    induction ks with
    | nil => exact fun chips h => ⟨h, rfl⟩
    | cons k ks ih =>
      intro chips h
      obtain ⟨hnumbered, hkeys⟩ := h.addChip k
      obtain ⟨hlast, hall⟩ := ih _ hnumbered
      refine ⟨hlast, ?_⟩
      rw [List.foldl_cons, hall, hkeys]
      rfl
  obtain ⟨⟨hnodup, -, hmaster⟩, hkeys⟩ := hrun [] ⟨List.nodup_nil, by simp, by simp⟩
  refine ⟨?_, hnodup, hmaster⟩
  have hperm := foldl_link_perm id ks []
  rw [hkeys]
  simpa using hperm

/-- All combinations of the properties. -/
def combinations (version : ℕ) (ids : List ChipId) (sts : List ChipSt) (pts : List ChipPt) :
    List ChipKeys :=
  ids.flatMap fun cId => sts.flatMap fun cSt =>
    if version = 3 then pts.map fun cPt => keysOf cId cSt cPt.models
    else [keysOf cId cSt fun _ => 0]

/-- The loops go through all combinations. -/
theorem makeChips_eq (version : ℕ) (p : Properties) : makeChips version p =
    (combinations version p.chipId p.chipSt p.chipPt).foldl addChip [] := by
  rw [makeChips, combinations, List.foldl_flatMap]
  congr 1
  funext chips cId
  rw [List.foldl_flatMap]
  congr 1
  funext chips cSt
  split
  · rw [List.foldl_map]
  · rfl

/-- The order of the properties does not matter. -/
theorem combinations_perm {version : ℕ} {ids ids' : List ChipId} {sts sts' : List ChipSt}
    {pts pts' : List ChipPt} (hids : ids.Perm ids') (hsts : sts.Perm sts')
    (hpts : version = 3 → pts.Perm pts') :
    (combinations version ids sts pts).Perm (combinations version ids' sts' pts') := by
  refine List.Perm.flatMap hids fun cId _ => List.Perm.flatMap hsts fun cSt _ => ?_
  split
  · next hthree => exact (hpts hthree).map _
  · exact List.Perm.refl _

end Lists

/-! ## Lines -/

section Lines

variable {α : Type}

/-- The tuples that the loops find in a line. -/
def lineTuples (tag : List Char) (size : ℕ) (line : List Char) : List (List UInt32) :=
  match find tag line with
  | none => []
  | some k => completeTuples size ((cellTokens (line.drop (k + tag.length))).map cell)

/-- **One property of a line**: the loop ends, adds the tuples, and cuts off the line. -/
theorem readProperty_spec (tag : List Char) {line : List Char} {size fuel : ℕ} (hsize : 0 < size)
    (add : α → List UInt32 → α) (a : α) (entryEnded : Bool) (hfuel : line.length < fuel) :
    ∃ line', readProperty tag size add fuel line a entryEnded =
        some (((lineTuples tag size line).foldl add a, (find tag line).isSome || entryEnded),
          line') ∧
      line' <+: line ∧ (find tag line = none → line' = line) := by
  rw [readProperty, lineTuples]
  rcases hfind : find tag line with _ | k
  · exact ⟨line, rfl, List.prefix_rfl, fun _ => rfl⟩
  · obtain ⟨cur, hloop, hcut⟩ := tupleLoop_spec hsize add
      ⟨line.take (k + tag.length), line.drop (k + tag.length)⟩ a
      (lt_of_le_of_lt (by simp) hfuel)
    refine ⟨cString cur.line, ?_, ?_, fun h => by cases h⟩
    · dsimp only
      rw [hloop]
      rfl
    · refine hcut.trans ?_
      rw [Cursor.line, List.take_append_drop]
      exact List.takeWhile_prefix _

end Lines

/-- A property that was found has come to its end. -/
structure Properties.Ended (p : Properties) : Prop where
  ids : p.chipId ≠ [] → p.entryEndedDT = true
  sts : p.chipSt ≠ [] → p.entryEndedST = true
  pts : p.chipPt ≠ [] → p.entryEndedPT = true

/-- What the three loops add for a line, which may be cut off from one to the next. -/
theorem readLine_spec (dtTag : List Char) {line : List Char} {fuel : ℕ} (p : Properties)
    (hfuel : line.length < fuel) :
    ∃ line₁ line₂, line₁ <+: cString line ∧
      (find dtTag (cString line) = none → line₁ = cString line) ∧
      line₂ <+: line₁ ∧ (find QCDT_BOARD_TAG line₁ = none → line₂ = line₁) ∧
      readLine dtTag fuel p line = some
        ⟨(lineTuples dtTag 2 (cString line)).foldl (fun l data => link l (.ofData data)) p.chipId,
          (lineTuples QCDT_BOARD_TAG 3 line₁).foldl (fun l data => link l (.ofData data)) p.chipSt,
          (lineTuples QCDT_PMIC_TAG 4 line₂).foldl (fun l data => link l (.ofData data)) p.chipPt,
          (find dtTag (cString line)).isSome || p.entryEndedDT,
          (find QCDT_BOARD_TAG line₁).isSome || p.entryEndedST,
          (find QCDT_PMIC_TAG line₂).isSome || p.entryEndedPT⟩ := by
  have hlen : (cString line).length < fuel := (List.takeWhile_prefix _).length_le.trans_lt hfuel
  obtain ⟨line₁, h₁, hpre₁, hsame₁⟩ := readProperty_spec dtTag (Nat.succ_pos 1)
    (fun l data => link l (ChipId.ofData data)) p.chipId p.entryEndedDT hlen
  obtain ⟨line₂, h₂, hpre₂, hsame₂⟩ := readProperty_spec QCDT_BOARD_TAG (Nat.succ_pos 2)
    (fun l data => link l (ChipSt.ofData data)) p.chipSt p.entryEndedST
    (hpre₁.length_le.trans_lt hlen)
  obtain ⟨line₃, h₃, -, -⟩ := readProperty_spec QCDT_PMIC_TAG (Nat.succ_pos 3)
    (fun l data => link l (ChipPt.ofData data)) p.chipPt p.entryEndedPT
    ((hpre₂.trans hpre₁).length_le.trans_lt hlen)
  refine ⟨line₁, line₂, hpre₁, hsame₁, hpre₂, hsame₂, ?_⟩
  rw [readLine]
  dsimp only
  rw [h₁]
  dsimp only [Option.bind_eq_bind, Option.bind_some]
  rw [h₂]
  dsimp only [Option.bind_some]
  rw [h₃]
  rfl

/-! ## Lines of cells -/

section CellLines

variable {tag tag' line : List Char}

/-- Behind the tag there is nothing but cells in any of the lines. -/
def CellLines (tag : List Char) (lines : List (List Char)) : Prop :=
  ∀ line ∈ lines, ∀ k, find tag line = some k → IsCellLine (line.drop (k + tag.length))

instance (tag : List Char) (lines : List (List Char)) : Decidable (CellLines tag lines) :=
  inferInstanceAs (Decidable (∀ line ∈ lines, ∀ k ∈ find tag line,
    IsCellLine (line.drop (k + tag.length))))

/-- The complete tuples of a property, in all lines with its tag. -/
def propertyTuples (tag : List Char) (size : ℕ) (lines : List (List Char)) : List (List UInt32) :=
  lines.flatMap fun line =>
    match find tag line with
    | none => []
    | some k => completeTuples size (lineCells (line.drop (k + tag.length)))

theorem CellLines.mono {lines lines' : List (List Char)} (h : CellLines tag lines)
    (hsub : lines' ⊆ lines) : CellLines tag lines' := fun line hline => h line (hsub hline)

/-- The loops find the complete tuples of the cells. -/
theorem lineTuples_eq (size : ℕ) (h : CellLines tag [line]) :
    lineTuples tag size line = propertyTuples tag size [line] := by
  have hcells := h line List.mem_cons_self
  rw [lineTuples, propertyTuples, List.flatMap_singleton]
  split
  · rfl
  · next k hk => rw [cells_of_line (hcells k hk)]

/-- A tag that does not occur in a line does not occur when the line is cut off. -/
theorem lineTuples_of_cut {line' : List Char} (size : ℕ) (hpre : line' <+: line)
    (h : find tag line = none) : lineTuples tag size line' = [] := by
  have hnone : find tag line' = none :=
    find_eq_none.mpr fun hin => find_eq_none.mp h (hin.trans hpre.isInfix)
  rw [lineTuples, hnone]

/-- A tag ends with a blank and the bracket. -/
def IsTag (tag : List Char) : Prop := ∃ name, tag = name ++ [' ', '<']

/-- **Two properties have different lines**, unless one tag is the end of the other. -/
theorem find_eq_none_of_find {k : ℕ} (htag : IsTag tag) (htag' : IsTag tag')
    (hsuffix : ¬ tag <:+ tag') (hsuffix' : ¬ tag' <:+ tag) (hcells : CellLines tag [line])
    (hcells' : CellLines tag' [line]) (hk : find tag line = some k) : find tag' line = none := by
  rcases hk' : find tag' line with _ | k'
  · rfl
  exfalso
  obtain ⟨name, rfl⟩ := htag
  obtain ⟨name', rfl⟩ := htag'
  have hline := eq_of_find hk
  have hline' := eq_of_find hk'
  have hbefore : line = (line.take k ++ name) ++ ' ' :: '<' ::
      line.drop (k + (name ++ [' ', '<']).length) := by simpa using hline
  have hbefore' : line = (line.take k' ++ name') ++ ' ' :: '<' ::
      line.drop (k' + (name' ++ [' ', '<']).length) := by simpa using hline'
  -- both tags end in the same place
  have hle := (hcells line List.mem_cons_self k hk).length_le hline hbefore'
  have hle' := (hcells' line List.mem_cons_self k' hk').length_le hline' hbefore
  rw [List.append_assoc] at hle hle'
  have hends : line.take k ++ (name ++ [' ', '<']) = line.take k' ++ (name' ++ [' ', '<']) :=
    (List.append_inj (hline.symm.trans hline') (le_antisymm hle' hle)).1
  rcases List.suffix_or_suffix_of_suffix ⟨line.take k, hends⟩ (List.suffix_append _ _) with h | h
  · exact hsuffix h
  · exact hsuffix' h

end CellLines

/-! ## All lines -/

/-- In the lines with the properties that a version needs there is nothing but cells. -/
structure CellProperties (version : ℕ) (lines : List (List Char)) : Prop where
  dt : CellLines QCDT_DT_TAG lines
  board : CellLines QCDT_BOARD_TAG lines
  pmic : version = 3 → CellLines QCDT_PMIC_TAG lines

instance (version : ℕ) (lines : List (List Char)) : Decidable (CellProperties version lines) :=
  decidable_of_iff (CellLines QCDT_DT_TAG lines ∧ CellLines QCDT_BOARD_TAG lines ∧
      (version = 3 → CellLines QCDT_PMIC_TAG lines))
    ⟨fun h => ⟨h.1, h.2.1, h.2.2⟩, fun h => ⟨h.dt, h.board, h.pmic⟩⟩

theorem CellProperties.mono {version : ℕ} {lines lines' : List (List Char)}
    (h : CellProperties version lines) (hsub : lines' ⊆ lines) : CellProperties version lines' :=
  ⟨h.dt.mono hsub, h.board.mono hsub, fun hversion => (h.pmic hversion).mono hsub⟩

/-- What some lines add to the properties that a version needs. -/
structure Adds (version : ℕ) (lines : List (List Char)) (p p' : Properties) : Prop where
  ids : p'.chipId =
    (propertyTuples QCDT_DT_TAG 2 lines).foldl (fun l data => link l (.ofData data)) p.chipId
  sts : p'.chipSt =
    (propertyTuples QCDT_BOARD_TAG 3 lines).foldl (fun l data => link l (.ofData data)) p.chipSt
  pts : version = 3 → p'.chipPt =
    (propertyTuples QCDT_PMIC_TAG 4 lines).foldl (fun l data => link l (.ofData data)) p.chipPt

/-- Lines one after the other. -/
theorem Adds.cons {version : ℕ} {line : List Char} {lines : List (List Char)}
    {p p' p'' : Properties} (h : Adds version [line] p p') (h' : Adds version lines p' p'') :
    Adds version (line :: lines) p p'' := by
  have hcons : ∀ tag size, propertyTuples tag size (line :: lines) =
      propertyTuples tag size [line] ++ propertyTuples tag size lines := by
    intro tag size
    rw [propertyTuples, propertyTuples, propertyTuples, List.flatMap_singleton, List.flatMap_cons]
  constructor
  · rw [hcons, List.foldl_append, ← h.ids, h'.ids]
  · rw [hcons, List.foldl_append, ← h.sts, h'.sts]
  · intro hversion
    rw [hcons, List.foldl_append, ← h.pts hversion, h'.pts hversion]

/-- From the empty lists, all tuples are collected. -/
theorem Adds.perm {version : ℕ} {lines : List (List Char)} {dt st pt : Bool} {p : Properties}
    (h : Adds version lines ⟨[], [], [], dt, st, pt⟩ p) :
    p.chipId.Perm ((propertyTuples QCDT_DT_TAG 2 lines).map ChipId.ofData) ∧
    p.chipSt.Perm ((propertyTuples QCDT_BOARD_TAG 3 lines).map ChipSt.ofData) ∧
    (version = 3 → p.chipPt.Perm ((propertyTuples QCDT_PMIC_TAG 4 lines).map ChipPt.ofData)) := by
  refine ⟨?_, ?_, fun hversion => ?_⟩
  · rw [h.ids]
    exact foldl_link_perm _ _ []
  · rw [h.sts]
    exact foldl_link_perm _ _ []
  · rw [h.pts hversion]
    exact foldl_link_perm _ _ []

theorem isTag_dt : IsTag QCDT_DT_TAG := ⟨"qcom,msm-id =".toList, by decide⟩

theorem isTag_board : IsTag QCDT_BOARD_TAG := ⟨"qcom,board-id =".toList, by decide⟩

theorem isTag_pmic : IsTag QCDT_PMIC_TAG := ⟨"qcom,pmic-id =".toList, by decide⟩

/-- Nothing is cut off from a line before its property is read. -/
theorem readLine_adds {version fuel : ℕ} {line : List Char} (p : Properties)
    (hfuel : line.length < fuel) (hcells : CellProperties version [cString line]) :
    ∃ p', readLine QCDT_DT_TAG fuel p line = some p' ∧ Adds version [cString line] p p' := by
  obtain ⟨hdt, hboard, hpmic⟩ := hcells
  obtain ⟨line₁, line₂, hpre₁, hsame₁, hpre₂, hsame₂, hread⟩ :=
    readLine_spec QCDT_DT_TAG p hfuel
  have hpre : line₂ <+: cString line := hpre₂.trans hpre₁
  refine ⟨_, hread, ?_, ?_, fun hversion => ?_⟩
  · rw [lineTuples_eq 2 hdt]
  · dsimp only
    congr 1
    rw [← lineTuples_eq 3 hboard]
    rcases hfind : find QCDT_DT_TAG (cString line) with _ | k
    · rw [hsame₁ hfind]
    · have hnone := find_eq_none_of_find isTag_dt isTag_board (by decide) (by decide) hdt hboard
        hfind
      rw [lineTuples_of_cut 3 hpre₁ hnone, lineTuples_of_cut 3 List.prefix_rfl hnone]
  · dsimp only
    congr 1
    have hpmic := hpmic hversion
    rw [← lineTuples_eq 4 hpmic]
    rcases hfind : find QCDT_DT_TAG (cString line) with _ | k
    · rw [hsame₁ hfind] at hsame₂
      rcases hfind' : find QCDT_BOARD_TAG (cString line) with _ | k'
      · rw [hsame₂ hfind']
      · have hnone := find_eq_none_of_find isTag_board isTag_pmic (by decide) (by decide) hboard
          hpmic hfind'
        rw [lineTuples_of_cut 4 hpre hnone, lineTuples_of_cut 4 List.prefix_rfl hnone]
    · have hnone := find_eq_none_of_find isTag_dt isTag_pmic (by decide) (by decide) hdt hpmic
        hfind
      rw [lineTuples_of_cut 4 hpre hnone, lineTuples_of_cut 4 List.prefix_rfl hnone]

/-- A property that gives something has been found. -/
theorem ended_of_foldl {β : Type} {tag line : List Char} {size : ℕ} {f : List UInt32 → β}
    {l : List β} {entryEnded : Bool} (h : l ≠ [] → entryEnded = true)
    (hne : (lineTuples tag size line).foldl (fun l data => link l (f data)) l ≠ []) :
    ((find tag line).isSome || entryEnded) = true := by
  rw [lineTuples] at hne
  rcases hfind : find tag line with _ | k
  · rw [hfind] at hne
    simpa using h hne
  · rfl

/-- **A line** is read, whatever it is. -/
theorem readLine_ended {fuel : ℕ} {line : List Char} {p : Properties} (dtTag : List Char)
    (hfuel : line.length < fuel) (h : p.Ended) :
    ∃ p', readLine dtTag fuel p line = some p' ∧ p'.Ended := by
  obtain ⟨line₁, line₂, -, -, -, -, hread⟩ := readLine_spec dtTag p hfuel
  exact ⟨_, hread, ended_of_foldl h.ids, ended_of_foldl h.sts, ended_of_foldl h.pts⟩

/-- **All lines** are read, whatever they are, and when there is nothing but cells behind the tags,
the properties are complete. -/
theorem readLines_spec (version : ℕ) {fuel : ℕ} {lines : List (List Char)} {p : Properties}
    (hfuel : ∀ line ∈ lines, line.length < fuel) (h : p.Ended) :
    ∃ p', lines.foldlM (readLine QCDT_DT_TAG fuel) p = some p' ∧ p'.Ended ∧
      (CellProperties version (lines.map cString) → Adds version (lines.map cString) p p') := by
  induction lines generalizing p with
  | nil => exact ⟨p, rfl, h, fun _ => ⟨rfl, rfl, fun _ => rfl⟩⟩
  | cons line lines ih =>
    rw [List.forall_mem_cons] at hfuel
    obtain ⟨p₁, hread, hended⟩ := readLine_ended QCDT_DT_TAG hfuel.1 h
    obtain ⟨p₂, hrun, hended', hadds⟩ := ih hfuel.2 hended
    refine ⟨p₂, ?_, hended', fun hcells => ?_⟩
    · rw [List.foldlM_cons, hread]
      exact hrun
    · rw [List.map_cons] at hcells ⊢
      obtain ⟨p₁', hread', hadds₁⟩ := readLine_adds p hfuel.1 (hcells.mono (by simp))
      obtain rfl : p₁ = p₁' := Option.some.inj (hread.symm.trans hread')
      exact hadds₁.cons (hadds (hcells.mono (List.subset_cons_self _ _)))

/-- A line is not longer than the text, but for the end of the last one. -/
theorem length_le_of_mem_getlines {text line : List Char} (h : line ∈ getlines text) :
    line.length ≤ text.length + 1 := by
  have hpart : ∀ part ∈ text.splitOn '\n', part.length ≤ text.length := fun part hpart =>
    ((infix_of_mem_splitOnP text).2 part hpart).length_le
  rw [getlines] at h
  rcases List.mem_append.mp h with h | h
  · obtain ⟨part, hmem, rfl⟩ := List.mem_map.mp h
    have hle := hpart part (List.mem_of_mem_dropLast hmem)
    rw [List.length_append, List.length_singleton]
    omega
  · have hmem := List.mem_of_mem_getLast? (Option.mem_toList.mp (List.mem_of_mem_filter h))
    exact Nat.le_succ_of_le (hpart line hmem)

/-! ## The result -/

/-- The order of the keys does not matter. -/
theorem Records.of_perm {chips : List (ℕ × ChipInfo)} {ks ks' : List ChipKeys}
    (h : Records chips ks) (hperm : ks.Perm ks') : Records chips ks' :=
  ⟨h.keys.trans hperm, h.nodup, h.master⟩

/-- All lists that are needed have something, or there is no result. -/
theorem finish_spec {version : ℕ} {p : Properties} (hversion : version = 2 ∨ version = 3)
    (hended : p.Ended) :
    (finish version p = none ↔ p.chipId = [] ∨ p.chipSt = [] ∨ version = 3 ∧ p.chipPt = []) ∧
    ∀ found ∈ finish version p,
      Records found.chips (combinations version p.chipId p.chipSt p.chipPt) := by
  rw [finish]
  rcases eq_or_ne p.chipId [] with hids | hids
  · simp [hids]
  rcases eq_or_ne p.chipSt [] with hsts | hsts
  · simp [hids, hsts]
  by_cases hpts : version = 3 ∧ p.chipPt = []
  · simp [hids, hsts, hpts]
  have hpmic : (if version = 2 then true else p.entryEndedPT) = true := by
    split
    · rfl
    · next hne =>
      have hthree := hversion.resolve_left hne
      exact hended.pts fun hnil => hpts ⟨hthree, hnil⟩
  have hlen : ¬ (p.chipPt.length = 0 ∧ version = 3) := by
    rw [List.length_eq_zero_iff]
    exact fun h => hpts h.symm
  rw [if_neg (by simpa using hids), if_neg (by simpa using hsts), if_neg hlen]
  dsimp only
  rw [if_pos ⟨hended.sts hsts, hended.ids hids, hpmic⟩]
  refine ⟨by simp [hids, hsts, hpts], fun found hfound => ?_⟩
  obtain rfl := Option.some.inj hfound
  rw [makeChips_eq]
  exact records_foldl _

/-- **`getChipInfo` for versions 2 and 3** comes to an end on every text. If there is nothing but
cells behind the tags of the properties that the version needs, then it makes one record for each
combination of their complete tuples, and the first one is the master of all; it returns `NULL` if
and only if one of these properties has no complete tuple. -/
theorem getChipInfo_spec {fuel version : ℕ} {text : List Char} (memory : Uninitialised)
    (hversion : version = 2 ∨ version = 3) (hfuel : text.length + 1 < fuel) :
    ∃ result, getChipInfo QCDT_DT_TAG fuel memory version text = some result ∧
      let lines := (getlines text).map cString
      let ids := (propertyTuples QCDT_DT_TAG 2 lines).map ChipId.ofData
      let sts := (propertyTuples QCDT_BOARD_TAG 3 lines).map ChipSt.ofData
      let pts := (propertyTuples QCDT_PMIC_TAG 4 lines).map ChipPt.ofData
      CellProperties version lines →
        (result = none ↔ ids = [] ∨ sts = [] ∨ version = 3 ∧ pts = []) ∧
        ∀ found ∈ result, Records found.chips (combinations version ids sts pts) := by
  obtain ⟨p, hrun, hended, hadds⟩ := readLines_spec version
    (p := ⟨[], [], [], memory.entryEndedDT, memory.entryEndedST, memory.entryEndedPT⟩)
    (fun line hline => (length_le_of_mem_getlines hline).trans_lt hfuel)
    ⟨fun h => absurd rfl h, fun h => absurd rfl h, fun h => absurd rfl h⟩
  have hone : version ≠ 1 := by omega
  refine ⟨finish version p, ?_, fun hcells => ?_⟩
  · rw [getChipInfo, if_neg hone, if_pos hversion, hrun]
    rfl
  obtain ⟨hids, hsts, hpts⟩ := (hadds hcells).perm
  obtain ⟨hnone, hfound⟩ := finish_spec hversion hended
  constructor
  · rw [hnone, eq_nil_iff_of_perm hids, eq_nil_iff_of_perm hsts]
    refine or_congr_right (or_congr_right (and_congr_right fun hthree => ?_))
    exact eq_nil_iff_of_perm (hpts hthree)
  · exact fun found hmem => (hfound found hmem).of_perm (combinations_perm hids hsts hpts)

/-- A board with one record; the third cell of `qcom,msm-id` is left over. -/
theorem getChipInfo_board :
    let text := ("qcom,msm-id = <0xee 0x0 7>;\nqcom,board-id = <0x8 0x0 15399 >;\n" ++
      "qcom,pmic-id = <1 2 3 4>;\n").toList
    ∃ found, getChipInfo QCDT_DT_TAG 128 ⟨false, false, false, fun _ => 0⟩ 3 text =
        some (some found) ∧
      Records found.chips [⟨0xee, 8, 0, 0, ![1, 2, 3, 4], 15399⟩] := by
  intro text
  obtain ⟨result, hrun, hspec⟩ := @getChipInfo_spec 128 3 text ⟨false, false, false, fun _ => 0⟩
    (Or.inr rfl) (by decide)
  have hdt : propertyTuples QCDT_DT_TAG 2 ((getlines text).map cString) = [[0xee, 0]] := by decide
  have hboard : propertyTuples QCDT_BOARD_TAG 3 ((getlines text).map cString) =
      [[8, 0, 15399]] := by decide
  have hpmic : propertyTuples QCDT_PMIC_TAG 4 ((getlines text).map cString) =
      [[1, 2, 3, 4]] := by decide
  obtain ⟨hnone, hfound⟩ := hspec (by decide)
  rw [hdt, hboard, hpmic] at hnone hfound
  rcases result with _ | found
  · rcases hnone.mp rfl with h | h | ⟨-, h⟩ <;> cases h
  · exact ⟨found, hrun, hfound found rfl⟩

end OppoA37.DtbTool
