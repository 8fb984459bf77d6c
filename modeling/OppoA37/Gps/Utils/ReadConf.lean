import OppoA37.Gps.Utils.LocCfg

/-!
# `loc_read_conf`

A configuration file is read with `fgets` and every piece of it is offered to the table, until the
end of the file or until as many values have been stored as the table has entries. A name that
comes twice counts twice, so the reader may stop in front of a name that has not come at all; and
`fgets` cuts a line that is longer than its buffer.

* `fgetsPieces` are the pieces, `fileLines` the lines.
* `readConfR_eq` says what a table holds after it was read: what the pieces up to the stop give.
* `readConf_iff` says for which files and tables this is what the whole file gives.
* `honoured_of_few` are the files where nothing goes wrong: no line is too long, and not more lines
  name an entry than there are entries.
-/

namespace OppoA37.LocCfg

/-! ## The file -/

/-- What `fgets` returns, one call after the other, with a buffer of a size; `buf` is what this call
has read already. -/
def fgetsPieces (size : ℕ) (buf : List Char) : List Char → List (List Char)
  | [] => if buf = [] then [] else [buf]
  | c :: text =>
    if c = '\n' ∨ buf.length + 2 = size then (buf ++ [c]) :: fgetsPieces size [] text
    else fgetsPieces size (buf ++ [c]) text

/-- The lines of a file, with their ends. -/
def fileLines : List Char → List (List Char)
  | [] => []
  | c :: text =>
    if c = '\n' then [c] :: fileLines text
    else
      match fileLines text with
      | [] => [[c]]
      | line :: lines => (c :: line) :: lines

/-- A line that begins with some text, which is no line yet. -/
theorem fileLines_append {buf : List Char} (hbuf : '\n' ∉ buf) (hne : buf ≠ [])
    (text : List Char) :
    fileLines (buf ++ text) = (buf ++ (fileLines text).headD []) :: (fileLines text).tail := by
  induction buf with
  | nil => exact absurd rfl hne
  | cons c buf ih =>
    rw [List.mem_cons, not_or] at hbuf
    rw [List.cons_append, fileLines, if_neg (Ne.symm hbuf.1)]
    by_cases hnil : buf = []
    · subst hnil
      cases h : fileLines text <;> simp [h]
    · rw [ih hbuf.2 hnil]
      rfl

/-- A line that ends. -/
theorem fileLines_append_newline {buf : List Char} (hbuf : '\n' ∉ buf) (text : List Char) :
    fileLines (buf ++ '\n' :: text) = (buf ++ ['\n']) :: fileLines text := by
  have hnl : fileLines ('\n' :: text) = ['\n'] :: fileLines text := if_pos rfl
  by_cases hnil : buf = []
  · subst hnil
    exact hnl
  · rw [fileLines_append hbuf hnil, hnl]
    rfl

/-- A text that is not empty has a first line, which is not empty. -/
theorem length_head_fileLines_pos {text : List Char} (h : text ≠ []) :
    0 < ((fileLines text).headD []).length := by
  obtain ⟨c, text, rfl⟩ := List.exists_cons_of_ne_nil h
  rw [fileLines]
  split
  · exact Nat.one_pos
  · split <;> exact Nat.succ_pos _

/-- Lines that are short enough are read as they are. -/
theorem fgetsPieces_eq {size : ℕ} {buf text : List Char} (hbuf : '\n' ∉ buf)
    (hroom : buf.length + 2 ≤ size)
    (hshort : ∀ line ∈ fileLines (buf ++ text), line.length < size) :
    fgetsPieces size buf text = fileLines (buf ++ text) := by
  induction text generalizing buf with
  | nil =>
    rw [fgetsPieces]
    split
    · rename_i h
      rw [h]
      rfl
    · rename_i h
      rw [fileLines_append hbuf h]
      simp [fileLines]
  | cons c text ih =>
    by_cases hc : c = '\n'
    · -- the line ends here
      subst hc
      rw [fileLines_append_newline hbuf] at hshort ⊢
      have hrest := ih List.not_mem_nil (Nat.le_trans (Nat.le_add_left 2 _) hroom)
        fun line hline => hshort line (List.mem_cons_of_mem _ hline)
      rw [fgetsPieces, if_pos (Or.inl rfl), hrest]
      rfl
    · have hbuf' : '\n' ∉ buf ++ [c] := by
        simpa [not_or] using ⟨hbuf, fun h => hc h.symm⟩
      have happ := fileLines_append hbuf' (List.append_ne_nil_of_right_ne_nil _ (by simp)) text
      rw [List.append_cons] at hshort ⊢
      have hlen := hshort _ (happ ▸ List.mem_cons_self)
      rw [List.length_append, List.length_append, List.length_singleton] at hlen
      by_cases hfull : buf.length + 2 = size
      · -- the buffer is full, so the file ends here
        have htext : text = [] := by
          by_contra hne
          have := length_head_fileLines_pos hne
          omega
        subst htext
        rw [fgetsPieces, if_pos (Or.inr hfull), happ]
        simp [fgetsPieces, fileLines]
      · have hroom' : (buf ++ [c]).length + 2 ≤ size := by
          rw [List.length_append, List.length_singleton]
          omega
        rw [fgetsPieces, if_neg (not_or.mpr ⟨hc, hfull⟩), ih hbuf' hroom' hshort]

section Read

variable {F : Type*}

/-! ## `loc_read_conf_r` -/

/-- An entry with its validity bit cleared. -/
def Param.clear (e : Param F) : Param F := { e with paramSet := e.paramSet.map fun _ => false }

variable [Zero F] (atof : List Char → F)

/-- The loop of `loc_read_conf_r`: what is left of the file, and the table. -/
def readLoop : UInt32 → List (List Char) → List (Param F) → List (List Char) × List (Param F)
  | _, [], t => ([], t)
  | numParams, inputBuf :: confFp, t =>
    if numParams = 0 then (inputBuf :: confFp, t)
    else
      let r := fillConfItem atof inputBuf t
      readLoop (numParams - UInt32.ofNat r.1) confFp r.2

/-- `loc_read_conf_r`: what it returns, what is left of the file, and the table. -/
def readConfR (confFp : Option (List (List Char))) (configTable : List (Param F)) :
    ℤ × Option (List (List Char)) × List (Param F) :=
  match confFp with
  | none => (-1, none, configTable)
  | some pieces =>
    let r := readLoop atof (UInt32.ofNat configTable.length) pieces (configTable.map Param.clear)
    (0, some r.1, r.2)

/-- `loc_read_conf`: the table it is given and `loc_param_table`, after a file that may not be there
was read. -/
def readConf (confFile : Option (List Char)) (configTable locParamTable : List (Param F)) :
    List (Param F) × List (Param F) :=
  match confFile with
  | none => (configTable, locParamTable)
  | some text =>
    let confFp := some (fgetsPieces locMaxParamLine [] text)
    (if configTable = [] then configTable else (readConfR atof confFp configTable).2.2,
      (readConfR atof confFp locParamTable).2.2)

/-- **The loop.** It fills the table by the pieces it reads. -/
theorem readLoop_eq (numParams : UInt32) (pieces : List (List Char)) (t : List (Param F)) :
    (readLoop atof numParams pieces t).2 =
      t.map fun e => e.assign (lastAssigned atof (linesRead atof t numParams pieces) e) := by
  rw [← foldl_fillConfItem]
  induction pieces generalizing numParams t with
  | nil => rfl
  | cons piece pieces ih =>
    rw [readLoop, linesRead]
    split
    · rfl
    · rw [List.foldl_cons, fillConfItem_eq]
      dsimp only
      rw [ih, linesRead_fill]

/-- The validity bits have no part in which lines are read. -/
theorem linesRead_clear (numParams : UInt32) (lines : List (List Char)) (t : List (Param F)) :
    linesRead atof (t.map Param.clear) numParams lines = linesRead atof t numParams lines := by
  have hcount : assignedCount atof (t.map Param.clear) = assignedCount atof t := by
    funext line
    rw [assignedCount, List.countP_map]
    rfl
  induction lines generalizing numParams with
  | nil => rfl
  | cons line lines ih => rw [linesRead, linesRead, ih, hcount]

/-- The pieces of a file that are read for a table. -/
def piecesRead (t : List (Param F)) (text : List Char) : List (List Char) :=
  linesRead atof t (UInt32.ofNat t.length) (fgetsPieces locMaxParamLine [] text)

/-- An entry after the lines of a file: the value of the last line that gives it one, and a validity
bit that says whether there is such a line. -/
def honoured (lines : List (List Char)) (e : Param F) : Param F :=
  { e with
    paramPtr := (lastAssigned atof lines e).or e.paramPtr
    paramSet := e.paramSet.map fun _ => (lastAssigned atof lines e).isSome }

/-- It is cleared, and takes what the lines give it. -/
theorem honoured_eq (lines : List (List Char)) (e : Param F) :
    honoured atof lines e = e.clear.assign (lastAssigned atof lines e.clear) := by
  have hlast : lastAssigned atof lines e.clear = lastAssigned atof lines e := rfl
  rw [honoured, hlast]
  cases lastAssigned atof lines e with
  | none => rfl
  | some x => simp [Param.store, Param.clear, Function.comp_def]

/-- **What is read.** Every entry is as the pieces up to the stop make it. -/
theorem readConf_eq (text : List Char) (t locParamTable : List (Param F)) :
    (readConf atof (some text) t locParamTable).1 =
      t.map (honoured atof (piecesRead atof t text)) := by
  rw [readConf]
  dsimp only
  split
  · rename_i h
    rw [h]
    rfl
  · rw [readConfR]
    dsimp only
    rw [readLoop_eq, linesRead_clear, List.map_map]
    exact List.map_congr_left fun e _ => (honoured_eq atof _ e).symm

/-! ## The whole file -/

/-- **The whole file is honoured** exactly when the pieces that are read give every entry what the
lines of the file give it. -/
theorem readConf_iff (text : List Char) (t locParamTable : List (Param F)) :
    (readConf atof (some text) t locParamTable).1 = t.map (honoured atof (fileLines text)) ↔
      ∀ e ∈ t, GiveTheSame atof (piecesRead atof t text) (fileLines text) e.clear := by
  rw [readConf_eq, List.map_inj_left]
  refine forall₂_congr fun e _ => ?_
  rw [honoured_eq, honoured_eq, assign_eq_iff]

/-- A file with short lines, not more of which name an entry than there are entries, is honoured. -/
theorem honoured_of_few {text : List Char} {t : List (Param F)} (locParamTable : List (Param F))
    (ht : t.length < 2 ^ 32) (hshort : ∀ line ∈ fileLines text, line.length < locMaxParamLine)
    (hfew : ((fileLines text).map (assignedCount atof t)).sum ≤ t.length) :
    (readConf atof (some text) t locParamTable).1 = t.map (honoured atof (fileLines text)) := by
  rw [readConf_eq, piecesRead, fgetsPieces_eq List.not_mem_nil (by decide) hshort]
  apply List.map_congr_left
  intro e he
  rw [honoured, honoured, List.nil_append, lastAssigned_linesRead atof he ht hfew]

end Read

/-- A name that comes twice keeps the next one from being read. -/
theorem repeated_key :
    let atof : List Char → ℤ := fun s => (Text.scanInt s).getD 0
    let t : List (Param ℤ) :=
      [⟨['A'], some (.num 0), some false, 'n'⟩, ⟨['B'], some (.num 0), some false, 'n'⟩]
    let text := "A=1\nA=2\nB=3\n".toList
    (t.map Param.paramName).Nodup ∧
      (readConf atof (some text) t []).1 ≠ t.map (honoured atof (fileLines text)) := by
  decide +kernel

end OppoA37.LocCfg
