import OppoA37.Lib.Layout
import OppoA37.DtbTool.FindDtb

/-!
# The image that `dtbtool` writes

`main` scans the input directory, writes a header and a table with one entry for each record,
and then the device trees that the entries point to, each padded to a multiple of the page
size. The table is laid out in one pass over the chip list and the device trees are written in
another; only at the end are the bytes expected and the bytes written compared.
-/

namespace OppoA37.DtbTool

/-! ## The program -/

/-- What the command line says. -/
structure Options where
  /-- `input_dir` -/
  inputDir : Path
  /-- `page_size` -/
  pageSize : ℕ
  /-- `version_override` -/
  versionOverride : ℕ
  /-- as `parse_commandline` checks it -/
  pageSize_pos : 0 < pageSize
  /-- as `parse_commandline` checks it, against `PAGE_SIZE_MAX` -/
  pageSize_le : pageSize ≤ 1024 * 1024

/-- The output file: what is in it, and `wrote`. -/
structure Out where
  /-- the bytes in the file -/
  file : List UInt8
  /-- `wrote`, a `size_t` -/
  wrote : ℕ

/-- `wrote += write(out_fd, ..)`. -/
def Out.write (o : Out) (bytes : List UInt8) : Out :=
  ⟨o.file ++ bytes, (o.wrote + bytes.length) % 2 ^ 64⟩

@[simp] theorem Out.write_file (o : Out) (bytes : List UInt8) :
    (o.write bytes).file = o.file ++ bytes := rfl

/-- The bytes of a `uint32_t` on a little-endian host. -/
def le32 (x : UInt32) : List UInt8 :=
  [UInt8.ofNat x.toNat, UInt8.ofNat (x.toNat / 2 ^ 8), UInt8.ofNat (x.toNat / 2 ^ 16),
    UInt8.ofNat (x.toNat / 2 ^ 24)]

/-- A number as a `uint32_t`. -/
def u32 (x : ℤ) : UInt32 := UInt32.ofNat (x % 2 ^ 32).toNat

/-- `QCDT_MAGIC`. -/
def magic : List UInt8 := [81, 67, 68, 84]

/-- So many bytes from the filler on, which has a page of zeros. -/
def filler (host : Host) (pageSize n : ℕ) : List UInt8 :=
  (List.range n).map fun i => if i < pageSize then 0 else host.beyond i

/-- `if (padding > 0) wrote += write(out_fd, filler, padding)`. -/
def Out.pad (o : Out) (host : Host) (pageSize : ℕ) (padding : ℤ) : Out :=
  if 0 < padding then o.write (filler host pageSize padding.toNat) else o

/-- The records along `next`, for so many records. No loop over them changes a `next`. -/
def chipsFrom (s : ChipState) : ℕ → Option ℕ → List ℕ
  | 0, _ => []
  | _ + 1, none => []
  | n + 1, some a => a :: chipsFrom s n (s.next a)

/-- What the loop over the table changes. -/
structure Table where
  /-- the records, with `master_offset` -/
  chips : ChipState
  /-- the output file -/
  out : Out
  /-- `expected`, a `size_t` -/
  expected : ℕ

/-- The fields of a record in the table. -/
def writeFields (version : ℕ) (o : Out) (c : ChipInfo) : Out :=
  let o := o.write (le32 c.chipset)
  let o := o.write (le32 c.platform)
  let o := if 2 ≤ version then o.write (le32 c.subtype) else o
  let o := o.write (le32 c.revNum)
  let o := if 2 ≤ version then o.write (le32 c.oppoId) else o
  if 3 ≤ version then (List.ofFn c.pmicModel).foldl (fun o model => o.write (le32 model)) o else o

/-- One turn of the loop over the table. -/
def tableStep (version : ℕ) (t : Table) (chip : ℕ) : Table :=
  let m := (t.chips.chips chip).master
  let o := writeFields version t.out (t.chips.chips chip)
  let t :=
    if (t.chips.chips m).masterOffset ≠ 0 then
      { t with out := o.write (le32 (t.chips.chips m).masterOffset) }
    else
      let o := o.write (le32 (UInt32.ofNat t.expected))
      let s := t.chips.write m fun i => { i with masterOffset := UInt32.ofNat t.expected }
      ⟨s, o, (t.expected + (s.chips m).dtbSize.toNat) % 2 ^ 64⟩
  { t with out := t.out.write (le32 (t.chips.chips m).dtbSize) }

/-- The loop that copies a file in blocks of `COPY_BLK`, for at most so many turns; the number is
`totBytesRead`. -/
def copyLoop : ℕ → List UInt8 → Out → ℤ → Option (Out × ℤ)
  | 0, _, _, _ => none
  | n + 1, input, o, totBytesRead =>
    let buf := input.take 1024
    if buf.length = 0 then some (o, totBytesRead)
    else copyLoop n (input.drop 1024) (o.write buf) (i32 (totBytesRead + buf.length))

/-- `page_size - (x % page_size)`, with the remainder that C computes. -/
def padTo (pageSize : ℕ) (x : ℤ) : ℤ := i32 (pageSize - x.tmod pageSize)

/-- The loop that writes the device trees. -/
def dtbLoop (host : Host) (pageSize : ℕ) : List ℕ → ChipState → Out → Option (Out × Rc)
  | [], _, o => some (o, .success)
  | chip :: rest, s, o =>
    let m := (s.chips chip).master
    if (s.chips m).wroteDtb then dtbLoop host pageSize rest s o
    else
      let s := s.write m fun i => { i with wroteDtb := true }
      match (s.chips m).dtbFile with
      | none => none
      | some filename =>
        match host.file filename with
        | none => some (o, .error)
        | some bytes => do
          let (o, totBytesRead) ← copyLoop (bytes.length + 1) bytes o 0
          let padding := padTo pageSize totBytesRead
          if u32 (totBytesRead + padding) ≠ (s.chips m).dtbSize then some (o, .error)
          else dtbLoop host pageSize rest s (o.pad host pageSize padding)

/-- What `main` returns, and the output file, if it is opened and not removed again. -/
structure MainResult where
  /-- the return value -/
  rc : Rc
  /-- the output file -/
  output : Option (List UInt8)
  deriving DecidableEq

/-- `entry_size` -/
def entrySize (version : ℕ) : ℤ := if version = 1 then 20 else if version = 2 then 28 else 44

/-- Where the table ends. -/
def tableEnd (version : ℕ) (dtbCount : ℤ) : ℤ :=
  i32 (i32 (12 + i32 (entrySize version * dtbCount)) + 4)

/-- The header, with `dtb_count` as it is. -/
def header (version : ℕ) (dtbCount : ℤ) : Out :=
  let o : Out := ⟨[], 0⟩
  let o := o.write magic
  let o := o.write (le32 (UInt32.ofNat version))
  o.write (le32 (u32 dtbCount))

/-- `main` from the header on, with the chip list and `dtb_count` that `find_dtb` leaves. -/
def writeImage (host : Host) (pageSize version : ℕ) (s : ChipState) (dtbCount : ℤ) :
    Option MainResult := do
  let padding := padTo pageSize (tableEnd version dtbCount)
  let dtbOffset := i32 (tableEnd version dtbCount + padding)
  let expected := (dtbOffset % 2 ^ 64).toNat
  let chips := chipsFrom s s.added s.chipList
  let t := chips.foldl (tableStep version) ⟨s, header version dtbCount, expected⟩
  let o := t.out.write (le32 0)
  let o := o.pad host pageSize padding
  let (o, rc) ← dtbLoop host pageSize chips t.chips o
  let rc := if t.expected ≠ o.wrote then .error else rc
  some ⟨rc, if rc = .success then some o.file else none⟩

/-- `find_dtb` as `main` calls it, on a directory with these entries or one that cannot be
opened. -/
def scan (host : Host) (opts : Options) : Option Entries → Option (Scan × ℤ)
  | none => some (.init, -1)
  | some entries => findDtb host opts.pageSize entries opts.inputDir .init 0

/-- The `version` that `main` writes. -/
def outVersion (opts : Options) (st : Scan) : ℕ :=
  if opts.versionOverride ≠ 0 then opts.versionOverride else st.version

/-- `main`. -/
def main (host : Host) (opts : Options) (input : Option Entries) : Option MainResult := do
  let (st, dtbCount) ← scan host opts input
  if dtbCount = 0 then some ⟨.success, none⟩
  else if !host.creates then some ⟨.error, none⟩
  else writeImage host opts.pageSize (outVersion opts st) st.chips dtbCount

/-! ## What is written -/

variable {host : Host} {pageSize version : ℕ} {s : ChipState} {o : Out}

/-- `wrote` counts the bytes in the file. -/
def Out.Counted (o : Out) : Prop := o.wrote = o.file.length % 2 ^ 64

theorem Out.Counted.write (h : o.Counted) (bytes : List UInt8) : (o.write bytes).Counted := by
  simp only [Out.Counted, Out.write, List.length_append] at h ⊢
  rw [h]
  omega

/-- The words of a record in the table. -/
def fieldWords (version : ℕ) (c : ChipInfo) : List UInt32 :=
  [c.chipset, c.platform] ++ (if 2 ≤ version then [c.subtype] else []) ++ [c.revNum] ++
    (if 2 ≤ version then [c.oppoId] else []) ++
    if 3 ≤ version then List.ofFn c.pmicModel else []

theorem writeFields_eq (version : ℕ) (o : Out) (c : ChipInfo) :
    writeFields version o c = (fieldWords version c).foldl (fun o w => o.write (le32 w)) o := by
  rw [writeFields, fieldWords]
  split_ifs <;> rfl

/-- Words are written one after the other. -/
theorem writeWords_spec (ws : List UInt32) (ho : o.Counted) :
    (ws.foldl (fun o w => o.write (le32 w)) o).Counted ∧
      (ws.foldl (fun o w => o.write (le32 w)) o).file = o.file ++ ws.flatMap le32 := by
  induction ws generalizing o with
  | nil => exact ⟨ho, (List.append_nil _).symm⟩
  | cons w ws ih =>
    obtain ⟨hcounted, hfile⟩ := ih (ho.write (le32 w))
    refine ⟨hcounted, hfile.trans ?_⟩
    rw [Out.write, List.flatMap_cons, List.append_assoc]

/-- Copying in blocks copies all bytes, and counts them. -/
theorem copyLoop_spec {n : ℕ} {input : List UInt8} {tot : ℤ} (hn : input.length < n)
    (ho : o.Counted) (htot : i32 tot = tot) :
    ∃ o', copyLoop n input o tot = some (o', i32 (tot + input.length)) ∧ o'.Counted ∧
      o'.file = o.file ++ input := by
  induction n generalizing input o tot with
  | zero => omega
  | succ n ih =>
    rw [copyLoop]
    split
    · next hbuf =>
      have hnil : input = [] := by simpa using hbuf
      subst hnil
      exact ⟨o, by simp [htot], ho, by simp⟩
    · next hbuf =>
      have hpos : 0 < input.length := by
        by_contra hno
        simp [List.length_eq_zero_iff.mp (Nat.eq_zero_of_not_pos hno)] at hbuf
      have hn' : (input.drop 1024).length < n := by
        rw [List.length_drop]
        omega
      have htot' : i32 (i32 (tot + (input.take 1024).length)) =
          i32 (tot + (input.take 1024).length) := Int.bmod_bmod ..
      obtain ⟨o', hloop, ho', hfile⟩ := ih hn' (ho.write (input.take 1024)) htot'
      refine ⟨o', ?_, ho', ?_⟩
      · rw [hloop]
        have hlen : (tot + (input.take 1024).length + (input.drop 1024).length : ℤ) =
            tot + input.length := by
          rw [add_assoc, ← Nat.cast_add, ← List.length_append, List.take_append_drop]
        rw [i32, i32, Int.bmod_add_bmod, hlen]
        rfl
      · rw [hfile, Out.write, List.append_assoc, List.take_append_drop]

/-! ### The table -/

/-- A record without what `main` writes into it. -/
def ChipInfo.unwritten (c : ChipInfo) : ChipInfo := { c with masterOffset := 0, wroteDtb := false }

/-- What `main` writes into a record is in two fields. -/
theorem ChipInfo.of_unwritten {c c' : ChipInfo} (h : c.unwritten = c'.unwritten) (version : ℕ) :
    c.master = c'.master ∧ c.dtbSize = c'.dtbSize ∧ c.dtbFile = c'.dtbFile ∧
      fieldWords version c = fieldWords version c' := by
  simp only [unwritten, ChipInfo.mk.injEq] at h
  simp [fieldWords, h]

/-- The masters of some records. -/
def masters (s : ChipState) (l : List ℕ) : List ℕ := l.map fun a => (s.chips a).master

/-- The padded size that a master knows. -/
def size (s : ChipState) (m : ℕ) : ℕ := (s.chips m).dtbSize.toNat

/-- The words of an entry of the table. -/
def entryWords (version : ℕ) (s : ChipState) (place : ℕ → ℕ) (a : ℕ) : List UInt32 :=
  fieldWords version (s.chips a) ++
    [UInt32.ofNat (place (s.chips a).master), (s.chips (s.chips a).master).dtbSize]

/-- Where the table says that a device tree begins, with `seen` laid out at `g` and the next one
at `x`. -/
def place (s : ChipState) (seen : List ℕ) (g : ℕ → ℕ) (x : ℕ) (ms : List ℕ) (m : ℕ) : ℕ :=
  if m ∈ seen then g m else Layout.offset (size s) x (Layout.firsts seen ms) m

variable {t : Table} {g : ℕ → ℕ} {x : ℕ}

/-- One turn of the loop over the table: an entry is written, and a device tree that has no place
yet gets the next one. -/
theorem tableStep_spec (version : ℕ) {a : ℕ}
    (hsame : ∀ b, (t.chips.chips b).unwritten = (s.chips b).unwritten) (ho : t.out.Counted) :
    let m := (s.chips a).master
    let t' := tableStep version t a
    let word := if (t.chips.chips m).masterOffset ≠ 0 then (t.chips.chips m).masterOffset
      else UInt32.ofNat t.expected
    t'.out.Counted ∧
    t'.out.file = t.out.file ++
      (fieldWords version (s.chips a) ++ [word, (s.chips m).dtbSize]).flatMap le32 ∧
    t'.expected = (if (t.chips.chips m).masterOffset ≠ 0 then t.expected
      else (t.expected + size s m) % 2 ^ 64) ∧
    (∀ b, (t'.chips.chips b).unwritten = (s.chips b).unwritten ∧
      (t'.chips.chips b).wroteDtb = (t.chips.chips b).wroteDtb ∧
      (t'.chips.chips b).masterOffset =
        if b = m then word else (t.chips.chips b).masterOffset) := by
  obtain ⟨hm, -, -, hfields⟩ := ChipInfo.of_unwritten (hsame a) version
  obtain ⟨-, hsize, -, -⟩ := ChipInfo.of_unwritten (hsame (s.chips a).master) version
  obtain ⟨hcounted, hfile⟩ := writeWords_spec (fieldWords version (s.chips a)) ho
  dsimp only
  rw [tableStep, writeFields_eq, hm, hfields]
  by_cases hoff : (t.chips.chips (s.chips a).master).masterOffset = 0
  · rw [if_neg (not_not.mpr hoff)]
    refine ⟨(hcounted.write _).write _, ?_, ?_, ?_⟩
    · simp [hfile, hoff, hsize]
    · simp [hoff, size, hsize]
    · intro b
      by_cases hb : b = (s.chips a).master
      · subst hb
        refine ⟨Eq.trans ?_ (hsame _), ?_, ?_⟩
        · simp [ChipInfo.unwritten]
        · simp
        · simp [hoff]
      · simp [hb, hsame]
  · rw [if_pos hoff]
    refine ⟨(hcounted.write _).write _, ?_, ?_, ?_⟩
    · simp [hfile, hoff, hsize]
    · simp [hoff]
    · intro b
      refine ⟨hsame b, rfl, ?_⟩
      split
      · next hb => simp [hb]
      · rfl

/-- A device tree that has its place leaves the others where they are. -/
theorem place_cons_of_mem {seen ms : List ℕ} {m : ℕ} (hmem : m ∈ seen) :
    place s seen g x (m :: ms) = place s seen g x ms := by
  funext m'
  rw [place, place, Layout.firsts, if_pos hmem]

/-- One that has none gets the next place. -/
theorem place_cons_of_not_mem {seen ms : List ℕ} {m : ℕ} (hmem : m ∉ seen) :
    place s seen g x (m :: ms) =
      place s (m :: seen) (Function.update g m x) (x + size s m) ms := by
  funext m'
  rw [place, place, Layout.firsts, if_neg hmem, Layout.offset]
  by_cases heq : m' = m
  · subst heq
    simp [hmem]
  · simp [heq]

theorem u32_ofNat_ne_zero {n : ℕ} (hpos : 0 < n) (hlt : n < 2 ^ 32) : UInt32.ofNat n ≠ 0 := by
  intro h
  have hnat := congrArg UInt32.toNat h
  rw [UInt32.toNat_ofNat_of_lt' hlt] at hnat
  exact hpos.ne' hnat

/-- The loop over the table, as long as no offset comes out as zero. -/
theorem tableLoop_spec (version : ℕ) (seen : List ℕ) {l : List ℕ}
    (hsame : ∀ b, (t.chips.chips b).unwritten = (s.chips b).unwritten)
    (hplaced : ∀ m ∈ masters s l, (t.chips.chips m).masterOffset =
      if m ∈ seen then UInt32.ofNat (g m) else 0)
    (hg : ∀ m ∈ seen, 0 < g m ∧ g m < 2 ^ 32) (hx : 0 < x)
    (hsum : x + ((Layout.firsts seen (masters s l)).map (size s)).sum < 2 ^ 32)
    (hexp : t.expected % 2 ^ 32 = x) (hlt : t.expected < 2 ^ 64) (ho : t.out.Counted) :
    let t' := l.foldl (tableStep version) t
    t'.out.Counted ∧
    t'.out.file = t.out.file ++
      (l.flatMap (entryWords version s (place s seen g x (masters s l)))).flatMap le32 ∧
    t'.expected = (t.expected + ((Layout.firsts seen (masters s l)).map (size s)).sum) % 2 ^ 64 ∧
    ∀ b, (t'.chips.chips b).unwritten = (s.chips b).unwritten ∧
      (t'.chips.chips b).wroteDtb = (t.chips.chips b).wroteDtb := by
  induction l generalizing t seen g x with
  | nil =>
    refine ⟨ho, (List.append_nil _).symm, ?_, fun b => ⟨hsame b, rfl⟩⟩
    exact (Nat.mod_eq_of_lt hlt).symm
  | cons a l ih =>
    obtain ⟨ho', hfile, hexpected, hchips⟩ := tableStep_spec version (a := a) hsame ho
    set m := (s.chips a).master with hm
    set t' := tableStep version t a with ht'
    have hmasters : masters s (a :: l) = m :: masters s l := rfl
    rw [hmasters] at hplaced hsum ⊢
    rw [Layout.firsts] at hsum ⊢
    by_cases hmem : m ∈ seen
    · -- the device tree has its place
      rw [if_pos hmem] at hsum ⊢
      have hoff : (t.chips.chips m).masterOffset = UInt32.ofNat (g m) := by
        rw [hplaced m List.mem_cons_self, if_pos hmem]
      have hne : (t.chips.chips m).masterOffset ≠ 0 := by
        rw [hoff]
        exact u32_ofNat_ne_zero (hg m hmem).1 (hg m hmem).2
      rw [if_pos hne] at hexpected hfile hchips
      have hplaced' : ∀ m' ∈ masters s l, (t'.chips.chips m').masterOffset =
          if m' ∈ seen then UInt32.ofNat (g m') else 0 := by
        intro m' hm'
        rw [(hchips m').2.2, ← hplaced m' (List.mem_cons_of_mem m hm')]
        split
        · next heq => rw [heq]
        · rfl
      obtain ⟨hcounted, hfile', hexp', hsame'⟩ := ih seen (fun b => (hchips b).1) hplaced' hg
        hx hsum (by rw [hexpected, hexp]) (by rw [hexpected]; exact hlt) ho'
      refine ⟨hcounted, ?_, ?_, fun b => ⟨(hsame' b).1, (hsame' b).2.trans (hchips b).2.1⟩⟩
      · have hentry : entryWords version s (place s seen g x (masters s l)) a =
            fieldWords version (s.chips a) ++
              [(t.chips.chips m).masterOffset, (s.chips m).dtbSize] := by
          rw [entryWords, ← hm, place, if_pos hmem, hoff]
        rw [List.foldl_cons, hfile', hfile, place_cons_of_mem hmem, List.flatMap_cons, hentry,
          List.append_assoc, ← List.flatMap_append]
      · rw [List.foldl_cons, hexp', hexpected]
    · -- the device tree gets the next place
      rw [if_neg hmem] at hsum ⊢
      rw [List.map_cons, List.sum_cons] at hsum ⊢
      have hoff : (t.chips.chips m).masterOffset = 0 := by
        rw [hplaced m List.mem_cons_self, if_neg hmem]
      rw [if_neg (not_not.mpr hoff)] at hexpected hfile hchips
      have hword : UInt32.ofNat t.expected = UInt32.ofNat x := by
        rw [← UInt32.toNat_inj, UInt32.toNat_ofNat', UInt32.toNat_ofNat', hexp]
        exact (Nat.mod_eq_of_lt (by omega)).symm
      rw [hword] at hfile hchips
      have hplaced' : ∀ m' ∈ masters s l, (t'.chips.chips m').masterOffset =
          if m' ∈ m :: seen then UInt32.ofNat (Function.update g m x m') else 0 := by
        intro m' hm'
        rw [(hchips m').2.2, hplaced m' (List.mem_cons_of_mem m hm')]
        by_cases heq : m' = m
        · subst heq
          simp
        · simp [heq]
      have hg' : ∀ m' ∈ m :: seen, 0 < Function.update g m x m' ∧
          Function.update g m x m' < 2 ^ 32 := by
        intro m' hm'
        by_cases heq : m' = m
        · subst heq
          rw [Function.update_self]
          exact ⟨hx, by omega⟩
        · rw [Function.update_of_ne heq]
          exact hg m' ((List.mem_cons.mp hm').resolve_left heq)
      obtain ⟨hcounted, hfile', hexp', hsame'⟩ := ih (m :: seen) (fun b => (hchips b).1) hplaced'
        hg' (x := x + size s m) (by omega) (by omega) (by omega) (by omega) ho'
      refine ⟨hcounted, ?_, ?_, fun b => ⟨(hsame' b).1, (hsame' b).2.trans (hchips b).2.1⟩⟩
      · have hentry : entryWords version s (place s (m :: seen) (Function.update g m x)
            (x + size s m) (masters s l)) a =
            fieldWords version (s.chips a) ++ [UInt32.ofNat x, (s.chips m).dtbSize] := by
          rw [entryWords, ← hm, place, if_pos List.mem_cons_self, Function.update_self]
        rw [List.foldl_cons, hfile', hfile, place_cons_of_not_mem hmem, List.flatMap_cons, hentry,
          List.append_assoc, ← List.flatMap_append]
      · rw [List.foldl_cons, hexp', hexpected]
        omega

/-! ### The device trees -/

/-- The device tree of a master. -/
def dtbBytes (host : Host) (s : ChipState) (m : ℕ) : List UInt8 :=
  ((s.chips m).dtbFile.bind host.file).getD []

/-- What is written for a device tree. -/
def blob (host : Host) (pageSize : ℕ) (s : ChipState) (m : ℕ) : List UInt8 :=
  dtbBytes host s m ++
    filler host pageSize (padTo pageSize (i32 (dtbBytes host s m).length)).toNat

theorem Out.pad_spec (ho : o.Counted) (host : Host) (pageSize : ℕ) (padding : ℤ) :
    (o.pad host pageSize padding).Counted ∧
      (o.pad host pageSize padding).file = o.file ++ filler host pageSize padding.toNat := by
  rw [Out.pad]
  split
  · exact ⟨ho.write _, rfl⟩
  · next hpos =>
    refine ⟨ho, ?_⟩
    rw [Int.toNat_of_nonpos (not_lt.mp hpos)]
    simp [filler]

theorem i32_zero : i32 0 = 0 := by simp [i32]

/-- A `uint32_t` keeps a number modulo `2 ^ 32`. -/
theorem u32_congr {x y : ℤ} (h : x ≡ y [ZMOD 2 ^ 32]) : u32 x = u32 y :=
  congrArg (fun z : ℤ => UInt32.ofNat z.toNat) h

/-- One device tree is copied, and its size compared with the one in the table. -/
theorem dtbLoop_copy {s' : ChipState} {o' : Out} {a m : ℕ} {l : List ℕ} {f : Path}
    {bytes : List UInt8} (ho : o.Counted) (hm : (s'.chips a).master = m)
    (hw : (s'.chips m).wroteDtb = false) (hf : (s'.chips m).dtbFile = some f)
    (hbytes : host.file f = some bytes)
    (hrun : dtbLoop host pageSize (a :: l) s' o = some (o', .success)) :
    u32 (bytes.length + padTo pageSize (i32 bytes.length)) = (s'.chips m).dtbSize ∧
    ∃ o₁, o₁.Counted ∧ o₁.file = o.file ++ bytes ++
        filler host pageSize (padTo pageSize (i32 bytes.length)).toNat ∧
      dtbLoop host pageSize l (s'.write m fun i => { i with wroteDtb := true }) o₁ =
        some (o', .success) := by
  obtain ⟨o₁, hcopy, ho₁, hfile₁⟩ := copyLoop_spec (n := bytes.length + 1)
    (Nat.lt_succ_self _) ho i32_zero
  rw [zero_add] at hcopy
  have hword : u32 (bytes.length + padTo pageSize (i32 bytes.length)) =
      u32 (i32 bytes.length + padTo pageSize (i32 bytes.length)) :=
    u32_congr ((i32_modEq _).symm.add_right _)
  obtain ⟨ho₂, hfile₂⟩ := Out.pad_spec ho₁ host pageSize (padTo pageSize (i32 bytes.length))
  have hfile' : ((s'.write m fun i => { i with wroteDtb := true }).chips m).dtbFile = some f := by
    simp [hf]
  have hsize : ((s'.write m fun i => { i with wroteDtb := true }).chips m).dtbSize =
      (s'.chips m).dtbSize := by simp
  rw [dtbLoop, hm, hw, if_neg Bool.false_ne_true] at hrun
  simp only [hfile', hbytes] at hrun
  obtain ⟨⟨o₂, tot⟩, hcopy', hrun⟩ := Option.bind_eq_some_iff.mp hrun
  obtain ⟨rfl, htot⟩ := Prod.mk.inj (Option.some.inj (hcopy.symm.trans hcopy'))
  dsimp only at hrun
  split at hrun
  · cases hrun
  · next hok =>
    rw [hsize, ← htot, ← hword, not_not] at hok
    rw [← htot] at hrun
    exact ⟨hok, _, ho₂, by rw [hfile₂, hfile₁], hrun⟩

/-- The loop that writes the device trees, when it finds all of them as they were. -/
theorem dtbLoop_spec (seen : List ℕ) {s' : ChipState} {o' : Out} {l : List ℕ}
    (hsame : ∀ b, (s'.chips b).unwritten = (s.chips b).unwritten)
    (hwrote : ∀ m ∈ masters s l, (s'.chips m).wroteDtb = decide (m ∈ seen)) (ho : o.Counted)
    (hknown : ∀ m ∈ masters s l, ∃ f bytes, (s.chips m).dtbFile = some f ∧
      host.file f = some bytes)
    (hrun : dtbLoop host pageSize l s' o = some (o', .success)) :
    o'.Counted ∧
    o'.file = o.file ++ (Layout.firsts seen (masters s l)).flatMap (blob host pageSize s) ∧
    ∀ m ∈ Layout.firsts seen (masters s l),
      u32 ((dtbBytes host s m).length + padTo pageSize (i32 (dtbBytes host s m).length)) =
        (s.chips m).dtbSize := by
  induction l generalizing s' seen o with
  | nil =>
    obtain ⟨rfl, -⟩ := Prod.mk.inj (Option.some.inj hrun)
    exact ⟨ho, (List.append_nil _).symm, by simp [masters, Layout.firsts]⟩
  | cons a l ih =>
    have hm := (ChipInfo.of_unwritten (hsame a) 0).1
    have hmasters : masters s (a :: l) = (s.chips a).master :: masters s l := rfl
    rw [hmasters] at hwrote hknown ⊢
    rw [List.forall_mem_cons] at hwrote hknown
    rw [Layout.firsts]
    by_cases hmem : (s.chips a).master ∈ seen
    · -- the device tree is there already
      rw [if_pos hmem]
      rw [dtbLoop, hm, hwrote.1, decide_eq_true hmem, if_pos rfl] at hrun
      exact ih seen hsame hwrote.2 ho hknown.2 hrun
    · rw [if_neg hmem]
      generalize (s.chips a).master = m at hm hmem hwrote hknown
      obtain ⟨-, hsize, hfile, -⟩ := ChipInfo.of_unwritten (hsame m) 0
      obtain ⟨f, bytes, hf, hbytes⟩ := hknown.1
      have hdtb : dtbBytes host s m = bytes := by simp [dtbBytes, hf, hbytes]
      have hw : (s'.chips m).wroteDtb = false := hwrote.1.trans (decide_eq_false hmem)
      obtain ⟨hok, o₁, ho₁, hfile₁, hrest⟩ := dtbLoop_copy ho hm hw (hfile.trans hf) hbytes hrun
      have hsame' : ∀ b, ((s'.write m fun i => { i with wroteDtb := true }).chips b).unwritten =
          (s.chips b).unwritten := by
        intro b
        rw [← hsame b]
        by_cases hb : b = m
        · subst hb
          simp [ChipInfo.unwritten]
        · simp [hb]
      have hwrote' : ∀ m' ∈ masters s l,
          ((s'.write m fun i => { i with wroteDtb := true }).chips m').wroteDtb =
            decide (m' ∈ m :: seen) := by
        intro m' hm'
        by_cases hb : m' = m
        · subst hb
          simp
        · simp [hb, hwrote.2 m' hm']
      obtain ⟨hcounted, hfile', hall⟩ := ih (m :: seen) hsame' hwrote' ho₁ hknown.2 hrest
      refine ⟨hcounted, ?_, ?_⟩
      · rw [hfile', hfile₁, List.flatMap_cons, blob, hdtb]
        simp only [List.append_assoc]
      · rw [List.forall_mem_cons]
        exact ⟨by rw [hdtb, hok, hsize], hall⟩

/-! ### The whole file -/

theorem i32_of_lt {x : ℤ} (hlo : -2 ^ 31 ≤ x) (hhi : x < 2 ^ 31) : i32 x = x := by
  refine Int.bmod_eq_of_le ?_ ?_
  all_goals norm_num at *
  all_goals omega

theorem le_i32 (x : ℤ) : -2 ^ 31 ≤ i32 x := by
  have h := Int.le_bmod (x := x) (m := 2 ^ 32) (by norm_num)
  rw [i32]
  omega

theorem i32_lt (x : ℤ) : i32 x < 2 ^ 31 := by
  have h := Int.bmod_lt (x := x) (m := 2 ^ 32) (by norm_num)
  rw [i32]
  omega

/-- An `int` keeps a number modulo `2 ^ 32`. -/
theorem i32_congr {x y : ℤ} (h : x ≡ y [ZMOD 2 ^ 32]) : i32 x = i32 y := by
  have hmod : x % (2 ^ 32 : ℕ) = y % (2 ^ 32 : ℕ) := by exact_mod_cast h
  rw [i32, i32, Int.bmod_def, Int.bmod_def, hmod]

/-- Padding never overflows, and there is always some. -/
theorem padTo_eq (hpos : 0 < pageSize) (hle : pageSize ≤ 1024 * 1024) (x : ℤ) :
    padTo pageSize x = pageSize - x.tmod pageSize ∧ 0 < padTo pageSize x := by
  have hp : (0 : ℤ) < pageSize := by exact_mod_cast hpos
  have hlt := Int.tmod_lt_of_pos x hp
  have hgt := Int.lt_tmod_of_pos x hp
  have heq : padTo pageSize x = pageSize - x.tmod pageSize := by
    rw [padTo]
    refine i32_of_lt ?_ ?_
    all_goals omega
  exact ⟨heq, by omega⟩

/-- The records of a chip list, from its head. -/
theorem chipsFrom_linked {p : Option ℕ} {l : List ℕ}
    (h : DoublyLinked.Linked s.next s.prev p l none) :
    chipsFrom s l.length l.head? = l := by
  induction l generalizing p with
  | nil => rfl
  | cons a l ih =>
    obtain ⟨-, hnext, hlinked⟩ := h
    rw [Option.or_none] at hnext
    rw [List.length_cons, List.head?_cons, chipsFrom, hnext, ih hlinked]

theorem le32_length (ws : List UInt32) : (ws.flatMap le32).length = 4 * ws.length := by
  induction ws with
  | nil => rfl
  | cons w ws ih =>
    rw [List.flatMap_cons, List.length_append, ih, List.length_cons, le32]
    simp only [List.length_cons, List.length_nil]
    omega

/-- An entry has the size that `main` reckons with. -/
theorem entrySize_eq (hversion : version = 1 ∨ version = 2 ∨ version = 3) (c : ChipInfo) :
    entrySize version = 4 * ((fieldWords version c).length + 2 : ℕ) := by
  obtain rfl | rfl | rfl := hversion
  all_goals simp [entrySize, fieldWords]

/-- The loop over the table writes entries, whatever the offsets are. -/
theorem tableLoop_length (hversion : version = 1 ∨ version = 2 ∨ version = 3) {l : List ℕ}
    (hsame : ∀ b, (t.chips.chips b).unwritten = (s.chips b).unwritten) (ho : t.out.Counted) :
    let t' := l.foldl (tableStep version) t
    t'.out.Counted ∧
    (∃ table, t'.out.file = t.out.file ++ table ∧
      (table.length : ℤ) = l.length * entrySize version) ∧
    ∀ b, (t'.chips.chips b).unwritten = (s.chips b).unwritten ∧
      (t'.chips.chips b).wroteDtb = (t.chips.chips b).wroteDtb := by
  induction l generalizing t with
  | nil => exact ⟨ho, ⟨[], (List.append_nil _).symm, by simp⟩, fun b => ⟨hsame b, rfl⟩⟩
  | cons a l ih =>
    obtain ⟨ho', hfile, -, hchips⟩ := tableStep_spec version (a := a) hsame ho
    obtain ⟨hcounted, ⟨table, hfile', hlen⟩, hsame'⟩ := ih (fun b => (hchips b).1) ho'
    rw [hfile, List.append_assoc] at hfile'
    refine ⟨hcounted, ⟨_, hfile', ?_⟩, fun b =>
      ⟨(hsame' b).1, (hsame' b).2.trans (hchips b).2.1⟩⟩
    rw [List.length_append, le32_length, List.length_append]
    rw [entrySize_eq hversion (s.chips a)] at hlen ⊢
    push_cast at hlen ⊢
    rw [hlen]
    simp only [List.length_cons, List.length_nil]
    push_cast
    ring

theorem header_counted (version : ℕ) (dtbCount : ℤ) : (header version dtbCount).Counted := by
  have h : (⟨[], 0⟩ : Out).Counted := rfl
  exact ((h.write _).write _).write _

/-- The state of the loop over the table, when it begins. -/
def tableStart (pageSize version : ℕ) (s : ChipState) (dtbCount : ℤ) : Table :=
  ⟨s, header version dtbCount, (i32 (tableEnd version dtbCount +
    padTo pageSize (tableEnd version dtbCount)) % 2 ^ 64).toNat⟩

/-- What is in the file when `main` is content with it. -/
theorem writeImage_success {l : List ℕ} {dtbCount : ℤ} {img : List UInt8} (h : Chips s l)
    (hversion : version = 1 ∨ version = 2 ∨ version = 3)
    (hknown : ∀ m ∈ masters s l, (s.chips m).wroteDtb = false ∧
      ∃ f bytes, (s.chips m).dtbFile = some f ∧ host.file f = some bytes)
    (hrun : writeImage host pageSize version s dtbCount = some ⟨.success, some img⟩) :
    ∃ t, t = l.foldl (tableStep version) (tableStart pageSize version s dtbCount) ∧
    (∃ table, t.out.file = (header version dtbCount).file ++ table ∧
      (table.length : ℤ) = l.length * entrySize version) ∧
    img = t.out.file ++ le32 0 ++
      filler host pageSize (padTo pageSize (tableEnd version dtbCount)).toNat ++
      (Layout.firsts [] (masters s l)).flatMap (blob host pageSize s) ∧
    t.expected = img.length % 2 ^ 64 ∧
    ∀ m ∈ Layout.firsts [] (masters s l),
      u32 ((dtbBytes host s m).length + padTo pageSize (i32 (dtbBytes host s m).length)) =
        (s.chips m).dtbSize := by
  refine ⟨_, rfl, ?_⟩
  obtain ⟨hcounted, htable, hsame⟩ := tableLoop_length (s := s) (l := l)
    (t := tableStart pageSize version s dtbCount) hversion (fun _ => rfl)
    (header_counted version dtbCount)
  rw [writeImage, h.count, h.head, chipsFrom_linked h.linked] at hrun
  dsimp only at hrun
  rw [← tableStart] at hrun
  generalize l.foldl (tableStep version) (tableStart pageSize version s dtbCount) = t at *
  obtain ⟨hpadded, hfile⟩ := Out.pad_spec (hcounted.write (le32 0)) host pageSize
    (padTo pageSize (tableEnd version dtbCount))
  obtain ⟨⟨o, rc⟩, hloop, hres⟩ := Option.bind_eq_some_iff.mp hrun
  obtain ⟨hrc, himg⟩ := MainResult.mk.inj (Option.some.inj hres)
  have hok : t.expected = o.wrote ∧ rc = .success := by
    by_contra hno
    split at hrc
    · cases hrc
    · next heq => exact hno ⟨not_not.mp heq, hrc⟩
  obtain ⟨hexpected, rfl⟩ := hok
  rw [hrc, if_pos rfl] at himg
  obtain ⟨ho, hdtbs, hall⟩ := dtbLoop_spec [] (fun b => (hsame b).1)
    (fun m hm => ((hsame m).2.trans (hknown m hm).1)) hpadded (fun m hm => (hknown m hm).2) hloop
  rw [← Option.some.inj himg]
  refine ⟨htable, ?_, hexpected.trans ho, hall⟩
  rw [hdtbs, hfile, Out.write_file]

end OppoA37.DtbTool
