import OppoA37.DtbTool.Image

/-!
# Reading the image back

A reader goes through the header and the table of an image, and finds the device tree of each
entry at its offset. `WellFormed` is what it relies on. When `main` is content with an image, it
is well formed exactly if the scan could open all subdirectories: one that it cannot open counts
for -1 in `dtb_count`.
-/

namespace OppoA37.DtbTool

open Layout

/-! ## The reader -/

/-- A little-endian word, and what follows it. -/
def readWord : List UInt8 → Option (UInt32 × List UInt8)
  | b₀ :: b₁ :: b₂ :: b₃ :: rest =>
    some (UInt32.ofNat
      (b₀.toNat + 2 ^ 8 * b₁.toNat + 2 ^ 16 * b₂.toNat + 2 ^ 24 * b₃.toNat), rest)
  | _ => none

/-- So many words. -/
def readWords : ℕ → List UInt8 → Option (List UInt32 × List UInt8)
  | 0, img => some ([], img)
  | n + 1, img => do
    let (w, img) ← readWord img
    let (ws, img) ← readWords n img
    some (w :: ws, img)

/-- An entry of the table. -/
structure Entry where
  /-- what identifies the board -/
  keys : List UInt32
  /-- where the device tree begins -/
  offset : UInt32
  /-- the size of its region -/
  size : UInt32
  deriving DecidableEq

/-- So many words identify a board. -/
def keyWords (version : ℕ) : ℕ := if version = 1 then 3 else if version = 2 then 5 else 9

/-- An entry of a table of this version. -/
def readEntry (version : ℕ) (img : List UInt8) : Option (Entry × List UInt8) := do
  let (keys, img) ← readWords (keyWords version) img
  let (offset, img) ← readWord img
  let (size, img) ← readWord img
  some (⟨keys, offset, size⟩, img)

/-- So many entries. -/
def readEntries (version : ℕ) : ℕ → List UInt8 → Option (List Entry × List UInt8)
  | 0, img => some ([], img)
  | n + 1, img => do
    let (e, img) ← readEntry version img
    let (es, img) ← readEntries version n img
    some (e :: es, img)

/-- The version and the entries of an image: as many as the header says, and a zero word at
their end. -/
def readTable (img : List UInt8) : Option (ℕ × List Entry) :=
  if img.take 4 = magic then do
    let (version, img) ← readWord (img.drop 4)
    let (count, img) ← readWord img
    let (entries, img) ← readEntries version.toNat count.toNat img
    let (stop, _) ← readWord img
    if stop = 0 then some (version.toNat, entries) else none
  else none

/-- The bytes that an entry points to. -/
def Entry.region (img : List UInt8) (e : Entry) : List UInt8 :=
  (img.drop e.offset.toNat).take e.size.toNat

/-- The file that a record came from, which its master knows. -/
def dtbFile (s : ChipState) (a : ℕ) : Option Path := (s.chips (s.chips a).master).dtbFile

/-- The entry of a record, in a table that ends at `stop`. -/
structure EntryOf (host : Host) (pageSize version : ℕ) (s : ChipState) (img : List UInt8)
    (stop a : ℕ) (e : Entry) : Prop where
  /-- it has the fields of the record -/
  keys : e.keys = fieldWords version (s.chips a)
  /-- its region begins at a page -/
  aligned : pageSize ∣ e.offset.toNat
  /-- behind the table -/
  behind : stop ≤ e.offset.toNat
  /-- and is in the image -/
  inside : e.offset.toNat + e.size.toNat ≤ img.length
  /-- it has the file of the record, followed by zeros -/
  data : ∃ f bytes, dtbFile s a = some f ∧ host.file f = some bytes ∧
    (s.chips a).keys ∈ host.getChipInfo f (host.getVersionInfo f) ∧
    IsLeast {n | pageSize ∣ n ∧ bytes.length < n} e.size.toNat ∧
    e.region img = bytes ++ List.replicate (e.size.toNat - bytes.length) 0

/-- The bytes from the header to the zero word, with so many entries. -/
def tableSize (version n : ℕ) : ℕ := 16 + 4 * (keyWords version + 2) * n

/-- A well-formed image for some records: they have their entries in the same order, and two
entries share their region if they are of one file, and have separate ones if not. -/
def WellFormed (host : Host) (pageSize version : ℕ) (s : ChipState) (l : List ℕ)
    (img : List UInt8) : Prop :=
  ∃ entry : ℕ → Entry, readTable img = some (version, l.map entry) ∧
    (∀ a ∈ l, EntryOf host pageSize version s img (tableSize version l.length) a (entry a)) ∧
    ∀ a ∈ l, ∀ b ∈ l,
      if dtbFile s a = dtbFile s b then
        (entry a).offset = (entry b).offset ∧ (entry a).size = (entry b).size
      else
        (entry a).offset.toNat + (entry a).size.toNat ≤ (entry b).offset.toNat ∨
          (entry b).offset.toNat + (entry b).size.toNat ≤ (entry a).offset.toNat

/-! ## What is written can be read -/

variable {host : Host} {pageSize version : ℕ} {s : ChipState} {l : List ℕ} {rest : List UInt8}

@[simp] theorem readWord_le32 (w : UInt32) (rest : List UInt8) :
    readWord (le32 w ++ rest) = some (w, rest) := by
  have hw : w.toNat < 2 ^ 32 := w.toNat_lt
  simp only [le32, List.cons_append, List.nil_append, readWord, UInt8.toNat_ofNat']
  congr 2
  rw [← UInt32.toNat_inj, UInt32.toNat_ofNat']
  omega

theorem readWords_flatMap (ws : List UInt32) (rest : List UInt8) :
    readWords ws.length (ws.flatMap le32 ++ rest) = some (ws, rest) := by
  induction ws with
  | nil => rfl
  | cons w ws ih =>
    rw [List.flatMap_cons, List.append_assoc, List.length_cons, readWords]
    simp [ih]

/-- The words of an entry. -/
def Entry.words (e : Entry) : List UInt32 := e.keys ++ [e.offset, e.size]

theorem readEntry_words {e : Entry} (he : e.keys.length = keyWords version) :
    readEntry version (e.words.flatMap le32 ++ rest) = some (e, rest) := by
  rw [readEntry, Entry.words, List.flatMap_append, List.append_assoc, ← he, readWords_flatMap]
  simp

theorem readEntries_words {es : List Entry} (hes : ∀ e ∈ es, e.keys.length = keyWords version) :
    readEntries version es.length ((es.flatMap Entry.words).flatMap le32 ++ rest) =
      some (es, rest) := by
  induction es with
  | nil => rfl
  | cons e es ih =>
    rw [List.forall_mem_cons] at hes
    rw [List.flatMap_cons, List.flatMap_append, List.append_assoc, List.length_cons, readEntries,
      readEntry_words hes.1]
    simp [ih hes.2]

/-- A reader finds the entries that were written. -/
theorem readTable_words {es : List Entry} (hversion : version < 2 ^ 32) (hlen : es.length < 2 ^ 32)
    (hes : ∀ e ∈ es, e.keys.length = keyWords version) :
    readTable (magic ++ (le32 (UInt32.ofNat version) ++ (le32 (UInt32.ofNat es.length) ++
      ((es.flatMap Entry.words).flatMap le32 ++ (le32 0 ++ rest))))) = some (version, es) := by
  have hmagic : magic.length = 4 := rfl
  rw [readTable, ← hmagic, List.take_left, if_pos rfl, List.drop_left]
  simp only [readWord_le32, Option.bind_eq_bind, Option.bind_some,
    UInt32.toNat_ofNat_of_lt' hversion, UInt32.toNat_ofNat_of_lt' hlen, readEntries_words hes,
    if_pos]

theorem readEntries_length {n : ℕ} {es : List Entry} {img : List UInt8}
    (h : readEntries version n img = some (es, rest)) : es.length = n := by
  induction n generalizing img es with
  | zero =>
    obtain ⟨rfl, -⟩ := Prod.mk.inj (Option.some.inj h)
    rfl
  | succ n ih =>
    obtain ⟨⟨e, img'⟩, -, h⟩ := Option.bind_eq_some_iff.mp h
    obtain ⟨⟨es', img''⟩, hes, h⟩ := Option.bind_eq_some_iff.mp h
    obtain ⟨rfl, rfl⟩ := Prod.mk.inj (Option.some.inj h)
    rw [List.length_cons, ih hes]

/-- A reader takes the number of entries from the header. -/
theorem readTable_length {v : UInt32} {n : ℕ} {count : UInt32} {es : List Entry}
    (h : readTable (magic ++ (le32 v ++ (le32 count ++ rest))) = some (n, es)) :
    es.length = count.toNat := by
  have hmagic : magic.length = 4 := rfl
  rw [readTable, ← hmagic, List.take_left, if_pos rfl, List.drop_left] at h
  simp only [readWord_le32, Option.bind_eq_bind, Option.bind_some] at h
  obtain ⟨⟨es', img⟩, hes, h⟩ := Option.bind_eq_some_iff.mp h
  obtain ⟨⟨stop, img'⟩, -, h⟩ := Option.bind_eq_some_iff.mp h
  dsimp only at h
  split at h
  · obtain ⟨-, rfl⟩ := Prod.mk.inj (Option.some.inj h)
    exact readEntries_length hes
  · cases h

/-! ## The image is well formed -/

theorem header_file (version : ℕ) (dtbCount : ℤ) : (header version dtbCount).file =
    magic ++ (le32 (UInt32.ofNat version) ++ le32 (u32 dtbCount)) := rfl

/-- As long as there is a page of zeros to take them from, the filler has zeros. -/
theorem filler_eq {n : ℕ} (hn : n ≤ pageSize) : filler host pageSize n = List.replicate n 0 := by
  refine List.eq_replicate_iff.mpr ⟨by simp [filler], ?_⟩
  intro b hb
  obtain ⟨i, hi, rfl⟩ := List.mem_map.mp hb
  exact if_pos ((List.mem_range.mp hi).trans_le hn)

theorem filler_length (host : Host) (pageSize n : ℕ) : (filler host pageSize n).length = n := by
  simp [filler]

theorem u32_toNat (x : ℤ) : ((u32 x).toNat : ℤ) = x % 2 ^ 32 := by
  have hnonneg := Int.emod_nonneg x (by norm_num : (2 : ℤ) ^ 32 ≠ 0)
  have hlt := Int.emod_lt_of_pos x (by norm_num : (0 : ℤ) < 2 ^ 32)
  rw [u32, UInt32.toNat_ofNat_of_lt' (by rw [UInt32.size]; omega), Int.toNat_of_nonneg hnonneg]

theorem u32_natCast (n : ℕ) : u32 n = UInt32.ofNat n := by
  have h := u32_toNat n
  rw [← UInt32.toNat_inj, UInt32.toNat_ofNat']
  exact_mod_cast h

/-- A size that fits is the least multiple of the page size that leaves room for a zero. -/
theorem isLeast_padded (hpos : 0 < pageSize) (len : ℕ) :
    IsLeast {n | pageSize ∣ n ∧ len < n} (len + (pageSize - len % pageSize)) := by
  have hmod := Nat.mod_lt len hpos
  have hdiv := Nat.div_add_mod len pageSize
  have heq : len + (pageSize - len % pageSize) = pageSize * (len / pageSize + 1) := by
    rw [Nat.mul_succ]
    omega
  refine ⟨⟨⟨_, heq⟩, by omega⟩, ?_⟩
  rintro n ⟨⟨k, rfl⟩, hlt⟩
  rw [heq]
  apply Nat.mul_le_mul_left _
  by_contra hk
  have hle : pageSize * k ≤ pageSize * (len / pageSize) := Nat.mul_le_mul_left _ (by omega)
  omega

/-- A device tree and its padding have at least the size in the table. -/
theorem size_le_blob (hpos : 0 < pageSize) (hle : pageSize ≤ 1024 * 1024) {m : ℕ}
    (hok : u32 ((dtbBytes host s m).length + padTo pageSize (i32 (dtbBytes host s m).length)) =
      (s.chips m).dtbSize) : size s m ≤ (blob host pageSize s m).length := by
  obtain ⟨-, hpad⟩ := padTo_eq hpos hle (i32 (dtbBytes host s m).length)
  have hsize := u32_toNat ((dtbBytes host s m).length +
    padTo pageSize (i32 (dtbBytes host s m).length))
  rw [hok] at hsize
  rw [blob, List.length_append, filler_length, size]
  omega

/-- If it has that size exactly, the padding is the one that was reckoned with. -/
theorem blob_eq (hpos : 0 < pageSize) (hle : pageSize ≤ 1024 * 1024) {m : ℕ}
    (hsize : (s.chips m).dtbSize = paddedSize pageSize (dtbBytes host s m))
    (hlen : (blob host pageSize s m).length = size s m) :
    size s m = (dtbBytes host s m).length +
        (pageSize - (dtbBytes host s m).length % pageSize) ∧
      blob host pageSize s m = dtbBytes host s m ++
        List.replicate (pageSize - (dtbBytes host s m).length % pageSize) 0 := by
  rw [blob] at hlen ⊢
  generalize dtbBytes host s m = bytes at *
  rw [List.length_append, filler_length] at hlen
  have hmod := Nat.mod_lt bytes.length hpos
  have hlt : (s.chips m).dtbSize.toNat < 2 ^ 32 := UInt32.toNat_lt _
  have hword : size s m = (bytes.length + (pageSize - bytes.length % pageSize)) % 2 ^ 32 := by
    rw [size, hsize, paddedSize, UInt32.toNat_ofNat']
  have hpad : (padTo pageSize (i32 bytes.length)).toNat = pageSize - bytes.length % pageSize := by
    rw [size] at hlen hword
    omega
  refine ⟨by omega, ?_⟩
  rw [hpad, filler_eq (Nat.sub_le _ _)]

/-- An `int` as a `size_t`: it is right modulo `2 ^ 32`, and when it is not negative it is right. -/
theorem sizeT_spec {x : ℕ} (hx : x < 2 ^ 32) {y : ℤ} (hlo : -2 ^ 31 ≤ y) (hhi : y < 2 ^ 31)
    (hmod : y ≡ x [ZMOD 2 ^ 32]) :
    (y % 2 ^ 64).toNat % 2 ^ 32 = x ∧ (y % 2 ^ 64).toNat < 2 ^ 64 ∧
      ((y % 2 ^ 64).toNat < 2 ^ 64 - 2 ^ 32 → (y % 2 ^ 64).toNat = x ∧ x < 2 ^ 31) := by
  rw [Int.ModEq] at hmod
  omega

/-- When the bytes expected are the bytes written, the first offset is right, and the sizes in the
table are those of the device trees. -/
theorem expected_eq {x start sizes blobs : ℕ} (hlen : x + blobs < 2 ^ 32) (hle : sizes ≤ blobs)
    (hmod : start % 2 ^ 32 = x) (hlt : start < 2 ^ 64)
    (hright : start < 2 ^ 64 - 2 ^ 32 → start = x ∧ x < 2 ^ 31)
    (hexpected : (start + sizes) % 2 ^ 64 = (x + blobs) % 2 ^ 64) :
    sizes = blobs ∧ x < 2 ^ 31 := by
  omega

/-- The padding after a table of `n` bytes. -/
theorem tablePadding_eq (hpos : 0 < pageSize) (hle : pageSize ≤ 1024 * 1024) {n : ℕ}
    (hn : n < 2 ^ 31) : (padTo pageSize (i32 n)).toNat = pageSize - n % pageSize := by
  have hi : i32 (n : ℤ) = n := i32_of_lt (by omega) (by omega)
  have htmod : (n : ℤ).tmod pageSize = (n % pageSize : ℕ) := by
    rw [Int.tmod_eq_emod_of_nonneg (Int.natCast_nonneg n)]
    rfl
  rw [hi, (padTo_eq hpos hle n).1, htmod]
  omega

theorem fieldWords_length (hversion : version = 1 ∨ version = 2 ∨ version = 3) (c : ChipInfo) :
    (fieldWords version c).length = keyWords version := by
  obtain rfl | rfl | rfl := hversion
  all_goals rfl

theorem tableEnd_eq (hversion : version = 1 ∨ version = 2 ∨ version = 3) {dtbCount : ℤ} {n : ℕ}
    (hcount : dtbCount ≡ n [ZMOD 2 ^ 32]) :
    tableEnd version dtbCount = i32 (tableSize version n) := by
  have hsize : entrySize version = 4 * (keyWords version + 2 : ℕ) := by
    obtain rfl | rfl | rfl := hversion
    all_goals rfl
  have hmul : i32 (entrySize version * dtbCount) ≡ entrySize version * n [ZMOD 2 ^ 32] :=
    (i32_modEq _).trans (hcount.mul_left _)
  have hend : (tableSize version n : ℤ) = 12 + entrySize version * n + 4 := by
    rw [tableSize, hsize]
    push_cast
    ring
  rw [tableEnd, hend]
  exact i32_congr (((i32_modEq _).trans (hmul.add_left 12)).add_right 4)

/-- An image with the table and the device trees where the table says, from `x` on. -/
structure Laid (host : Host) (pageSize version : ℕ) (s : ChipState) (l : List ℕ)
    (img : List UInt8) (x : ℕ) : Prop where
  /-- the first device tree begins at a page -/
  start : x = tableSize version l.length + (pageSize - tableSize version l.length % pageSize)
  /-- what is in the file -/
  image : img = magic ++ (le32 (UInt32.ofNat version) ++ (le32 (UInt32.ofNat l.length) ++
    ((l.flatMap (entryWords version s (offset (size s) x (firsts [] (masters s l))))).flatMap
      le32 ++ (le32 0 ++ (List.replicate (x - tableSize version l.length) 0 ++
        (firsts [] (masters s l)).flatMap (blob host pageSize s))))))
  /-- the device trees have the sizes in the table -/
  blobs : ∀ m ∈ firsts [] (masters s l), (blob host pageSize s m).length = size s m
  /-- and nothing follows them -/
  total : x + ((firsts [] (masters s l)).map (size s)).sum = img.length

/-- The records of a scan come from files. -/
theorem Scanned.masters {st : Scan} (h : Scanned host pageSize st l) {m : ℕ}
    (hm : m ∈ masters st.chips l) : (st.chips.chips m).wroteDtb = false ∧
      (st.chips.chips m).masterOffset = 0 ∧
      ∃ f bytes, (st.chips.chips m).dtbFile = some f ∧ host.file f = some bytes ∧
        (st.chips.chips m).dtbSize = paddedSize pageSize bytes := by
  obtain ⟨a, ha, rfl⟩ := List.mem_map.mp hm
  obtain ⟨f, bytes, hmaster, hfile, -, -, hdtb, hsize⟩ := h.fromFile a ha
  obtain ⟨hwrote, hoff⟩ := h.unwritten _ (h.lt_allocated _ hmaster)
  exact ⟨hwrote, hoff, f, bytes, hdtb, hfile, hsize⟩

theorem tableSize_eq (hversion : version = 1 ∨ version = 2 ∨ version = 3) (n : ℕ) :
    (tableSize version n : ℤ) = 16 + n * entrySize version := by
  have hsize : entrySize version = 4 * (keyWords version + 2 : ℕ) := by
    obtain rfl | rfl | rfl := hversion
    all_goals rfl
  rw [tableSize, hsize]
  push_cast
  ring

/-- The masters of a scan are not written yet, and know their files. -/
theorem Scanned.known {st : Scan} (h : Scanned host pageSize st l) :
    ∀ m ∈ DtbTool.masters st.chips l, (st.chips.chips m).wroteDtb = false ∧
      ∃ f bytes, (st.chips.chips m).dtbFile = some f ∧ host.file f = some bytes := by
  intro m hm
  obtain ⟨hwrote, -, f, bytes, hdtb, hfile, -⟩ := h.masters hm
  exact ⟨hwrote, f, bytes, hdtb, hfile⟩

/-- Sizes that are no larger than the blobs and have the same sum are the lengths of the blobs. -/
theorem eq_of_sum_eq {ks : List ℕ} {f g : ℕ → ℕ} (hle : ∀ m ∈ ks, f m ≤ g m)
    (hsum : (ks.map f).sum = (ks.map g).sum) {m : ℕ} (hm : m ∈ ks) : g m = f m := by
  by_contra hne
  have hlt := List.sum_lt_sum f g hle ⟨m, hm, lt_of_le_of_ne (hle m hm) (Ne.symm hne)⟩
  omega

/-- The length of what is written. -/
theorem image_length (hversion : version = 1 ∨ version = 2 ∨ version = 3) {n padding : ℕ}
    {dtbCount : ℤ} {table : List UInt8} (hlen : (table.length : ℤ) = n * entrySize version)
    (ks : List ℕ) :
    ((header version dtbCount).file ++ table ++ le32 0 ++ filler host pageSize padding ++
      ks.flatMap (blob host pageSize s)).length =
    tableSize version n + padding + (ks.map fun m => (blob host pageSize s m).length).sum := by
  have hsize := tableSize_eq hversion n
  have hheader : (header version dtbCount).file.length = 12 := rfl
  have hzero : (le32 0).length = 4 := rfl
  simp only [List.length_append, hheader, hzero, filler_length, List.length_flatMap]
  omega

/-- When `dtb_count` is right and `main` is content, the table says where the device trees are. -/
theorem writeImage_laid {st : Scan} {dtbCount : ℤ} {img : List UInt8} (hpos : 0 < pageSize)
    (hle : pageSize ≤ 1024 * 1024) (h : Scanned host pageSize st l)
    (hversion : version = 1 ∨ version = 2 ∨ version = 3)
    (hcount : dtbCount ≡ l.length [ZMOD 2 ^ 32])
    (hrun : writeImage host pageSize version st.chips dtbCount = some ⟨.success, some img⟩)
    (hlen : img.length < 2 ^ 32) : ∃ x, Laid host pageSize version st.chips l img x := by
  obtain ⟨t, ht, ⟨table, htable, htlen⟩, himg, hexp, hall⟩ :=
    writeImage_success h.chips hversion h.known hrun
  have hend := tableEnd_eq hversion hcount
  rw [hend] at himg
  have htotal := congrArg List.length himg
  rw [htable, image_length hversion htlen] at htotal
  have hsizes : ∀ m ∈ firsts [] (masters st.chips l),
      size st.chips m ≤ (blob host pageSize st.chips m).length :=
    fun m hm => size_le_blob hpos hle (hall m hm)
  have hsum := List.sum_le_sum hsizes
  -- the loop over the table, with the true offset of the first device tree
  have hpad := (padTo_eq hpos hle (tableEnd version dtbCount)).2
  have hstart : i32 (tableEnd version dtbCount + padTo pageSize (tableEnd version dtbCount)) ≡
      (tableSize version l.length +
        (padTo pageSize (i32 (tableSize version l.length))).toNat : ℕ) [ZMOD 2 ^ 32] := by
    rw [hend] at hpad ⊢
    rw [Nat.cast_add, Int.toNat_of_nonneg hpad.le]
    exact (i32_modEq _).trans ((i32_modEq _).add_right _)
  have hsmall : tableSize version l.length < 2 ^ 31 →
      (padTo pageSize (i32 (tableSize version l.length))).toNat =
        pageSize - tableSize version l.length % pageSize := tablePadding_eq hpos hle
  rw [htotal] at hlen hexp
  generalize (padTo pageSize (i32 (tableSize version l.length))).toNat = padding at *
  clear hpad
  have hx : tableSize version l.length + padding < 2 ^ 32 := (Nat.le_add_right _ _).trans_lt hlen
  obtain ⟨hmod, hlt64, hright⟩ := sizeT_spec hx (le_i32 _) (i32_lt _) hstart
  have hxpos : 0 < tableSize version l.length + padding :=
    Nat.add_pos_left (Nat.add_pos_left (by norm_num) _) _
  have hbound : tableSize version l.length + padding +
      ((firsts [] (masters st.chips l)).map (size st.chips)).sum < 2 ^ 32 :=
    (Nat.add_le_add_left hsum _).trans_lt hlen
  obtain ⟨-, hfile, hexp', -⟩ := tableLoop_spec (s := st.chips) (l := l)
    (t := tableStart pageSize version st.chips dtbCount) (g := fun _ => 0) version []
    (fun _ => rfl) (fun m hm => (h.masters hm).2.1) (by simp) hxpos hbound hmod hlt64
    (header_counted version dtbCount)
  rw [← ht] at hfile hexp'
  rw [hexp'] at hexp
  obtain ⟨hsumEq, hlt31⟩ := expected_eq hlen hsum hmod hlt64 hright hexp
  have hpadding := hsmall ((Nat.le_add_right _ _).trans_lt hlt31)
  refine ⟨tableSize version l.length + padding, by rw [hpadding], ?_, ?_, ?_⟩
  · have hword : u32 dtbCount = UInt32.ofNat l.length := by
      rw [u32_congr hcount, u32_natCast]
    have hplace : place st.chips [] (fun _ => 0) (tableSize version l.length + padding)
        (masters st.chips l) = offset (size st.chips) (tableSize version l.length + padding)
          (firsts [] (masters st.chips l)) := rfl
    have hfill : padding ≤ pageSize := hpadding.trans_le (Nat.sub_le _ _)
    rw [himg, hfile, filler_eq hfill, hplace, Nat.add_sub_cancel_left, tableStart, header_file,
      hword]
    simp only [List.append_assoc]
  · exact fun m hm => eq_of_sum_eq hsizes hsumEq hm
  · rw [hsumEq, htotal]

/-- Masters of one file are one: the second time, its first record is a duplicate. -/
theorem Scanned.master_eq {st : Scan} (h : Scanned host pageSize st l) {m m' : ℕ} (hm : m ∈ l)
    (hm' : m' ∈ l) {f : Path} (hf : (st.chips.chips m).dtbFile = some f)
    (hf' : (st.chips.chips m').dtbFile = some f) : m = m' := by
  by_contra hne
  have hkeys : (st.chips.info m).keys = (st.chips.info m').keys :=
    Option.some.inj ((h.first m hm f hf).symm.trans (h.first m' hm' f hf'))
  have hdistinct : duplicate (st.chips.info m) (st.chips.info m') = false := by
    have hsymm : Std.Symm fun a b => duplicate (st.chips.info a) (st.chips.info b) = false := by
      refine ⟨fun a b hab => ?_⟩
      rwa [duplicate_comm]
    exact h.chips.distinct.forall hm hm' hne
  simp only [ChipInfo.keys, ChipKeys.mk.injEq] at hkeys
  simp [duplicate, hkeys] at hdistinct

/-- The entry of a record, when the first device tree begins at `x`. -/
def entryAt (version : ℕ) (s : ChipState) (l : List ℕ) (x a : ℕ) : Entry :=
  ⟨fieldWords version (s.chips a),
    UInt32.ofNat (offset (size s) x (firsts [] (masters s l)) (s.chips a).master),
    (s.chips (s.chips a).master).dtbSize⟩

/-- The region of an entry is in the image, where the table says. -/
theorem Laid.offset_toNat {img : List UInt8} {x a : ℕ}
    (h : Laid host pageSize version s l img x) (hlen : img.length < 2 ^ 32) (ha : a ∈ l) :
    (s.chips a).master ∈ firsts [] (masters s l) ∧
    (entryAt version s l x a).offset.toNat =
      offset (size s) x (firsts [] (masters s l)) (s.chips a).master ∧
    offset (size s) x (firsts [] (masters s l)) (s.chips a).master + size s (s.chips a).master ≤
      img.length := by
  have hm : (s.chips a).master ∈ firsts [] (masters s l) :=
    mem_firsts.mpr ⟨List.mem_map_of_mem ha, List.not_mem_nil⟩
  have hend := offset_add_le (size s) x hm
  rw [h.total] at hend
  refine ⟨hm, UInt32.toNat_ofNat_of_lt' ?_, hend⟩
  exact (Nat.le_add_right _ _).trans_lt (hend.trans_lt hlen)

/-- The entry of a record points to the device tree of its file. -/
theorem Laid.region_eq {img : List UInt8} {x a : ℕ} (h : Laid host pageSize version s l img x)
    (hlen : img.length < 2 ^ 32) (ha : a ∈ l) :
    (entryAt version s l x a).region img = blob host pageSize s (s.chips a).master := by
  obtain ⟨hm, hoff, -⟩ := h.offset_toNat hlen ha
  have himg := h.image
  have htotal := h.total
  have hsizes : (firsts [] (masters s l)).map (fun m => (blob host pageSize s m).length) =
      (firsts [] (masters s l)).map (size s) := List.map_congr_left h.blobs
  simp only [← List.append_assoc] at himg
  rw [himg, List.length_append, List.length_flatMap, hsizes] at htotal
  rw [Entry.region, hoff, himg]
  exact take_drop_blobs h.blobs _ (Nat.add_right_cancel htotal).symm hm

theorem le_tableSize (version n : ℕ) : n ≤ tableSize version n := by
  have hmul : 1 * n ≤ 4 * (keyWords version + 2) * n := Nat.mul_le_mul_right n (by omega)
  rw [tableSize]
  omega

/-- A reader finds the entries of the records. -/
theorem Laid.readTable_eq {img : List UInt8} {x : ℕ}
    (hversion : version = 1 ∨ version = 2 ∨ version = 3)
    (h : Laid host pageSize version s l img x) (hlen : img.length < 2 ^ 32) :
    readTable img = some (version, l.map (entryAt version s l x)) := by
  have hkeys : ∀ e ∈ l.map (entryAt version s l x), e.keys.length = keyWords version := by
    intro e he
    obtain ⟨a, -, rfl⟩ := List.mem_map.mp he
    exact fieldWords_length hversion _
  have hcount : (l.map (entryAt version s l x)).length < 2 ^ 32 := by
    have hl := le_tableSize version l.length
    have htotal := h.total
    have hstart := h.start
    rw [List.length_map]
    omega
  have hwords : l.flatMap (entryWords version s (offset (size s) x (firsts [] (masters s l)))) =
      (l.map (entryAt version s l x)).flatMap Entry.words := by
    rw [List.flatMap_map]
    rfl
  have hnum : l.length = (l.map (entryAt version s l x)).length := (List.length_map _).symm
  rw [h.image, hwords, hnum]
  exact readTable_words (by omega) hcount hkeys

/-- The padded device tree of a master. -/
theorem Laid.blob_eq {st : Scan} {img : List UInt8} {x m : ℕ} (hpos : 0 < pageSize)
    (hle : pageSize ≤ 1024 * 1024) (hscan : Scanned host pageSize st l)
    (h : Laid host pageSize version st.chips l img x)
    (hm : m ∈ firsts [] (masters st.chips l)) :
    ∃ f bytes, (st.chips.chips m).dtbFile = some f ∧ host.file f = some bytes ∧
      size st.chips m = bytes.length + (pageSize - bytes.length % pageSize) ∧
      blob host pageSize st.chips m =
        bytes ++ List.replicate (pageSize - bytes.length % pageSize) 0 := by
  obtain ⟨-, -, f, bytes, hf, hbytes, hsize⟩ := hscan.masters (mem_firsts.mp hm).1
  have hdtb : dtbBytes host st.chips m = bytes := by simp [dtbBytes, hf, hbytes]
  obtain ⟨hsize', hblob⟩ := DtbTool.blob_eq hpos hle (hdtb.symm ▸ hsize) (h.blobs m hm)
  rw [hdtb] at hsize' hblob
  exact ⟨f, bytes, hf, hbytes, hsize', hblob⟩

/-- The entry of a record is as it should be. -/
theorem Laid.entryOf {st : Scan} {img : List UInt8} {x a : ℕ} (hpos : 0 < pageSize)
    (hle : pageSize ≤ 1024 * 1024) (hscan : Scanned host pageSize st l)
    (h : Laid host pageSize version st.chips l img x) (hlen : img.length < 2 ^ 32) (ha : a ∈ l) :
    EntryOf host pageSize version st.chips img (tableSize version l.length) a
      (entryAt version st.chips l x a) := by
  have hfirst : pageSize ∣ x := h.start ▸ (isLeast_padded hpos _).1.1
  have hsizes : ∀ m ∈ firsts [] (masters st.chips l), pageSize ∣ size st.chips m := by
    intro m hm
    obtain ⟨f, bytes, -, -, hsize, -⟩ := h.blob_eq hpos hle hscan hm
    exact hsize ▸ (isLeast_padded hpos _).1.1
  obtain ⟨hm, hoff, hend⟩ := h.offset_toNat hlen ha
  obtain ⟨f, bytes, hf, hbytes, hsize, hblob⟩ := h.blob_eq hpos hle hscan hm
  obtain ⟨f', bytes', -, -, -, hkeys, hf', -⟩ := hscan.fromFile a ha
  have hff' : f' = f := Option.some.inj (hf'.symm.trans hf)
  subst hff'
  have hsize' : (entryAt version st.chips l x a).size.toNat =
      bytes.length + (pageSize - bytes.length % pageSize) := hsize
  refine ⟨rfl, ?_, ?_, ?_, f', bytes, hf, hbytes, hkeys, ?_, ?_⟩
  · rw [hoff]
    exact dvd_offset hfirst hsizes _
  · rw [hoff]
    exact (h.start ▸ Nat.le_add_right _ _ : tableSize version l.length ≤ x).trans (le_offset ..)
  · rw [hoff]
    exact hend
  · rw [hsize']
    exact isLeast_padded hpos _
  · rw [h.region_eq hlen ha, hblob, hsize', Nat.add_sub_cancel_left]

/-- Entries share their region exactly if they are of one file. -/
theorem Laid.regions {st : Scan} {img : List UInt8} {x a b : ℕ}
    (hscan : Scanned host pageSize st l) (h : Laid host pageSize version st.chips l img x)
    (hlen : img.length < 2 ^ 32) (ha : a ∈ l) (hb : b ∈ l) :
    if dtbFile st.chips a = dtbFile st.chips b then
      (entryAt version st.chips l x a).offset = (entryAt version st.chips l x b).offset ∧
        (entryAt version st.chips l x a).size = (entryAt version st.chips l x b).size
    else
      (entryAt version st.chips l x a).offset.toNat + (entryAt version st.chips l x a).size.toNat ≤
          (entryAt version st.chips l x b).offset.toNat ∨
        (entryAt version st.chips l x b).offset.toNat +
          (entryAt version st.chips l x b).size.toNat ≤
          (entryAt version st.chips l x a).offset.toNat := by
  obtain ⟨hm, hoff, -⟩ := h.offset_toNat hlen ha
  obtain ⟨hm', hoff', -⟩ := h.offset_toNat hlen hb
  split
  · next hsame =>
    obtain ⟨f, -, hin, -, -, -, hf, -⟩ := hscan.fromFile a ha
    obtain ⟨f', -, hin', -, -, -, hf', -⟩ := hscan.fromFile b hb
    have hmaster : (st.chips.chips a).master = (st.chips.chips b).master :=
      hscan.master_eq hin hin' hf (hsame.symm.trans hf)
    rw [entryAt, entryAt, hmaster]
    exact ⟨rfl, rfl⟩
  · next hdiff =>
    rw [hoff, hoff']
    refine offset_disjoint (size st.chips) x hm hm' fun hmaster => hdiff ?_
    rw [dtbFile, dtbFile, hmaster]

/-! ## Which images are well formed -/

/-- A chip list has one order. -/
theorem Chips.unique {l' : List ℕ} (h : Chips s l) (h' : Chips s l') : l = l' := by
  have hlen : l.length = l'.length := h.count.symm.trans h'.count
  rw [← chipsFrom_linked h.linked, ← chipsFrom_linked h'.linked, hlen, ← h.head, ← h'.head]

/-- The directories that the scan cannot open. -/
def unreadable : Option Entries → ℕ
  | none => 1
  | some entries => entries.unreadable

/-- Every directory that cannot be opened is counted as a record less. -/
theorem scan_spec {opts : Options} {input : Option Entries} {st : Scan} {dtbCount : ℤ}
    (h : scan host opts input = some (st, dtbCount)) :
    ∃ l, Scanned host opts.pageSize st l ∧
      dtbCount + unreadable input ≡ l.length [ZMOD 2 ^ 32] := by
  cases input with
  | none =>
    obtain ⟨rfl, rfl⟩ := Prod.mk.inj (Option.some.inj h)
    exact ⟨[], scanned_init host opts.pageSize, by simp [unreadable]⟩
  | some entries =>
    obtain ⟨l, hscanned, hcount⟩ := findDtb_spec (scanned_init host opts.pageSize) h
    refine ⟨l, hscanned, ?_⟩
    simpa [unreadable] using hcount

/-- An image begins with `dtb_count`, whatever follows. -/
theorem writeImage_header {st : Scan} {dtbCount : ℤ} {img : List UInt8}
    (h : Scanned host pageSize st l) (hversion : version = 1 ∨ version = 2 ∨ version = 3)
    (hrun : writeImage host pageSize version st.chips dtbCount = some ⟨.success, some img⟩) :
    ∃ rest, img = magic ++ (le32 (UInt32.ofNat version) ++ (le32 (u32 dtbCount) ++ rest)) := by
  obtain ⟨t, -, ⟨table, htable, -⟩, himg, -, -⟩ := writeImage_success h.chips hversion h.known hrun
  rw [htable, header_file] at himg
  simp only [List.append_assoc] at himg
  exact ⟨_, himg⟩

/-- `main` writes what `writeImage` does. -/
theorem main_image {opts : Options} {input : Option Entries} {st : Scan} {dtbCount : ℤ}
    {img : List UInt8} (hscan : scan host opts input = some (st, dtbCount))
    (hrun : main host opts input = some ⟨.success, some img⟩) :
    writeImage host opts.pageSize (outVersion opts st) st.chips dtbCount =
      some ⟨.success, some img⟩ := by
  rw [main, hscan] at hrun
  dsimp only [Option.bind_eq_bind, Option.bind_some] at hrun
  split at hrun
  · cases hrun
  · split at hrun
    · cases hrun
    · exact hrun

/-- An image that `main` is content with is well formed exactly if the directories that the scan
could not open are a multiple of `2 ^ 32`, so that `dtb_count` is right. -/
theorem wellFormed_iff {host : Host} {opts : Options} {input : Option Entries} {st : Scan}
    {dtbCount : ℤ} {img : List UInt8} (hscan : scan host opts input = some (st, dtbCount))
    (hrun : main host opts input = some ⟨.success, some img⟩)
    (hversion : outVersion opts st = 1 ∨ outVersion opts st = 2 ∨ outVersion opts st = 3)
    (hlen : img.length < 2 ^ 32) :
    (∃ l, Scanned host opts.pageSize st l ∧
      WellFormed host opts.pageSize (outVersion opts st) st.chips l img) ↔
      2 ^ 32 ∣ unreadable input := by
  have hwrite := main_image hscan hrun
  obtain ⟨l, hscanned, hcount⟩ := scan_spec hscan
  constructor
  · rintro ⟨l', hscanned', entry, htable, -, -⟩
    obtain rfl := hscanned.chips.unique hscanned'.chips
    obtain ⟨rest, rfl⟩ := writeImage_header hscanned hversion hwrite
    have hnum := readTable_length htable
    have hword := u32_toNat dtbCount
    rw [← hnum, List.length_map] at hword
    have hzero : (unreadable input : ℤ) ≡ 0 [ZMOD 2 ^ 32] := by
      rw [Int.ModEq] at hcount ⊢
      omega
    exact_mod_cast Int.modEq_zero_iff_dvd.mp hzero
  · intro hdvd
    have hzero : (unreadable input : ℤ) ≡ 0 [ZMOD 2 ^ 32] :=
      Int.modEq_zero_iff_dvd.mpr (by exact_mod_cast hdvd)
    have hcount' : dtbCount ≡ l.length [ZMOD 2 ^ 32] := by
      have h := (hzero.symm.add_left dtbCount).trans hcount
      rwa [add_zero] at h
    obtain ⟨x, hlaid⟩ := writeImage_laid opts.pageSize_pos opts.pageSize_le hscanned hversion
      hcount' hwrite hlen
    refine ⟨l, hscanned, entryAt (outVersion opts st) st.chips l x, ?_, ?_, ?_⟩
    · exact hlaid.readTable_eq hversion hlen
    · exact fun a ha => hlaid.entryOf opts.pageSize_pos opts.pageSize_le hscanned hlen ha
    · exact fun a ha b hb => hlaid.regions hscanned hlen ha hb

/-- A host with one file of two records. -/
def twoRecords : Host where
  getVersionInfo _ := 2
  getChipInfo _ _ := [⟨1, 1, 1, 1, fun _ => 0, 1⟩, ⟨2, 1, 1, 1, fun _ => 0, 1⟩]
  file _ := some (List.replicate 72 7)
  creates := true
  beyond _ := 0

/-- Pages of 12 bytes. -/
def smallPages : Options := ⟨['/'], 12, 0, by decide, by decide⟩

/-- A file, and nothing else. -/
def readable : Entries := .reg ['a', '.', 'd', 't', 'b'] .done

/-- A file, and three subdirectories that cannot be opened. -/
def lockedOut : Entries :=
  .reg ['a', '.', 'd', 't', 'b'] (.locked ['x'] (.locked ['y'] (.locked ['z'] .done)))

/-- What is written with so many entries counted, the device tree at `x` and at `y`. -/
def twoEntries (count x y : UInt32) : List UInt8 :=
  magic ++ [2, count, 1, 1, 1, 1, 1, x, 84, 2, 1, 1, 1, 1, y, 84, 0].flatMap le32 ++
    List.replicate 12 0 ++ List.replicate 72 7 ++ List.replicate 12 0

theorem wellFormed_two : ∃ st dtbCount, scan twoRecords smallPages (some readable) =
      some (st, dtbCount) ∧
    ((∃ l, Scanned twoRecords 12 st l ∧
      WellFormed twoRecords 12 (outVersion smallPages st) st.chips l (twoEntries 2 84 84)) ↔
      2 ^ 32 ∣ unreadable (some readable)) := by
  have hsome : (scan twoRecords smallPages (some readable)).isSome := by decide +kernel
  obtain ⟨⟨st, dtbCount⟩, hscan⟩ := Option.isSome_iff_exists.mp hsome
  have hversion : (scan twoRecords smallPages (some readable)).map
      (fun r => outVersion smallPages r.1) = some 2 := by decide +kernel
  rw [hscan] at hversion
  refine ⟨st, dtbCount, hscan, ?_⟩
  exact wellFormed_iff hscan (by decide +kernel)
    (.inr (.inl (Option.some.inj hversion))) (by decide +kernel)

/-- Three subdirectories that cannot be opened make -1 of a `dtb_count` of 2. The first offset comes
out as zero, is taken for none, and is counted a second time, so that `main` is content. -/
theorem lockedOut_malformed : ∃ st dtbCount,
    scan twoRecords smallPages (some lockedOut) = some (st, dtbCount) ∧
    main twoRecords smallPages (some lockedOut) =
      some ⟨.success, some (twoEntries 0xFFFFFFFF 0 84)⟩ ∧
    outVersion smallPages st = 2 ∧ (twoEntries 0xFFFFFFFF 0 84).length < 2 ^ 32 ∧
    ¬ ∃ l, Scanned twoRecords 12 st l ∧ WellFormed twoRecords 12 (outVersion smallPages st)
      st.chips l (twoEntries 0xFFFFFFFF 0 84) := by
  have hsome : (scan twoRecords smallPages (some lockedOut)).isSome := by decide +kernel
  obtain ⟨⟨st, dtbCount⟩, hscan⟩ := Option.isSome_iff_exists.mp hsome
  have hversion : (scan twoRecords smallPages (some lockedOut)).map
      (fun r => outVersion smallPages r.1) = some 2 := by decide +kernel
  rw [hscan] at hversion
  refine ⟨st, dtbCount, hscan, by decide +kernel, Option.some.inj hversion, by decide +kernel, ?_⟩
  rintro ⟨l, -, entry, htable, -, -⟩
  have hnone : readTable (twoEntries 0xFFFFFFFF 0 84) = none := by decide +kernel
  rw [hnone] at htable
  cases htable

end OppoA37.DtbTool
