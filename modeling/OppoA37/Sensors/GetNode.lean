import OppoA37.Lib.CString
import OppoA37.Sensors.Enumeration

/-!
# How a file of a sensor is read

`getNode` reads a file to an array on the stack, and stores its text or its number in a `sensor_t`.
The array is cleared before, so that what is read is a string already. But a `NUL` is put over the
last byte of it, whatever that is, and a newline is only removed then.

* `getNode_none`, `getNode_outside` and `getNode_some` say what comes of every file.
* `getNode_iff` says when no more than a newline is lost, and `getNode_cut` what happens to a number
  without one.
-/

namespace OppoA37.Sensors

open CString Text

variable {F : Type}

/-! ## The function -/

/-- `TYPE_STRING` and the like -/
inductive SysfsType where
  | string
  | integer
  | float
  | integer64
  deriving DecidableEq, Repr

/-- An entry of `node_map`, as `getNode` uses it. -/
structure SysfsMap where
  /-- `offset`: the field of the `sensor_t` -/
  offset : Node
  /-- `type` -/
  type : SysfsType
  /-- `required` -/
  required : Bool

/-- What there is at a path. -/
inductive SysfsFile where
  /-- a file that can't be opened -/
  | unopened
  /-- a file that can't be read -/
  | unreadable
  /-- a file with some content -/
  | content (bytes : List Char)

/-- The fields of a `sensor_t`, by the files they come from. -/
structure SensorT (F : Type) where
  /-- what the pointers to texts point to -/
  string : Node → Block Char
  /-- whole numbers -/
  integer : Node → ℤ
  /-- floating point numbers -/
  float : Node → F

/-- A `sensor_t` that is cleared, with room for its texts. -/
def SensorT.cleared (zero : F) : SensorT F :=
  ⟨fun _ => stored SYSFS_MAXLEN [], fun _ => 0, fun _ => zero⟩

/-- `atoll` -/
def atoll (s : List Char) : ℤ :=
  max (-9223372036854775808) (min 9223372036854775807 ((scanInt s).getD 0))

/-- Store what is in `tmp`, as the type says. -/
def SensorT.store (atof : List Char → F) (map : SysfsMap) (tmp : Block Char) (buf : SensorT F) :
    Option (SensorT F) :=
  match map.type with
  | .integer => do
    let text ← readString tmp
    some { buf with integer := Function.update buf.integer map.offset (atoi text) }
  | .string => do
    let p ← strlcpy (buf.string map.offset) tmp SYSFS_MAXLEN
    some { buf with string := Function.update buf.string map.offset p }
  | .float => do
    let text ← readString tmp
    some { buf with float := Function.update buf.float map.offset (atof text) }
  | .integer64 => do
    let text ← readString tmp
    some { buf with integer := Function.update buf.integer map.offset (atoll text) }

/-- Remove the newline at the end of `tmp`; `none` if `tmp[strlen(tmp) - 1]` is outside. -/
def removeNewline (tmp : Block Char) : Option (Block Char) := do
  let len ← strlen tmp
  if len = 0 then none
  else if tmp.get (len - 1) = '\n' then tmp.write (len - 1) NUL
  else some tmp

/-- What is returned when a file can't be read: those that are not required are ignored. -/
def SysfsMap.failed (map : SysfsMap) : ℤ := if map.required then -1 else 0

/-- `getNode`: what it returns, and `tmp` and the sensor, if something was stored. `none` if an
array was left. -/
def getNode (atof : List Char → F) (buf : Option (SensorT F)) (path : Option SysfsFile)
    (map : SysfsMap) : Option (ℤ × Option (Block Char × SensorT F)) :=
  match buf, path with
  | some buf, some (.content bytes) => do
    let bytes := bytes.take (SYSFS_MAXLEN - 1)
    -- `tmp` was cleared
    let tmp := stored SYSFS_MAXLEN bytes
    let size ← strlen tmp
    if bytes.length = 0 ∨ size = 0 then some (map.failed, none)
    else do
      let tmp ← tmp.write (bytes.length - 1) NUL
      let tmp ← removeNewline tmp
      let buf ← buf.store atof map tmp
      some (0, some (tmp, buf))
  | some _, some _ => some (map.failed, none)
  | _, _ => some (-1, none)

/-! ## What is claimed -/

/-- A text without the newline at its end. -/
def withoutNewline (t : List Char) : List Char := if t.getLast? = some '\n' then t.dropLast else t

/-- The field has the value of a text. -/
def SensorT.Holds (atof : List Char → F) (map : SysfsMap) (text : List Char) (s : SensorT F) :
    Prop :=
  match map.type with
  | .integer => s.integer map.offset = atoi text
  | .string => StringAt (s.string map.offset) 0 text
  | .float => s.float map.offset = atof text
  | .integer64 => s.integer map.offset = atoll text

/-- No array is left, nothing but the newline of the content is lost, and the value is stored. -/
def GetNodeRight (atof : List Char → F) (buf : SensorT F) (content : List Char) (map : SysfsMap) :
    Prop :=
  ∃ tmp buf', getNode atof (some buf) (some (.content content)) map = some (0, some (tmp, buf')) ∧
    StringAt tmp 0 (withoutNewline content) ∧ buf'.Holds atof map (withoutNewline content)

/-- The content is a text and one newline. -/
def IsLine (content : List Char) : Prop :=
  ∃ value, content = value ++ ['\n'] ∧ value ≠ [] ∧ NUL ∉ value ∧ value.getLast? ≠ some '\n'

variable {atof : List Char → F} {buf : SensorT F} {map : SysfsMap} {tmp : Block Char}
variable {content text value : List Char} {c : Char}

/-! ## The parts -/

theorem withoutNewline_snoc : withoutNewline (value ++ [c]) =
    if c = '\n' then value else value ++ [c] := by
  rw [withoutNewline, List.getLast?_concat, List.dropLast_concat]
  simp only [Option.some.injEq]

/-- Nothing is added to a text. -/
theorem length_le_of_beforeNul (t : List Char) :
    (withoutNewline (beforeNul t)).length ≤ t.length := by
  have hle : (beforeNul t).length ≤ t.length := (List.takeWhile_sublist _).length_le
  rw [withoutNewline]
  split_ifs
  · exact (List.dropLast_sublist _).length_le.trans hle
  · exact hle

/-- In an empty string, the newline is looked for outside. -/
theorem removeNewline_nil (h : StringAt tmp 0 []) : removeNewline tmp = none := by
  rw [removeNewline, h.strlen]
  rfl

/-- In any other string, it is removed. -/
theorem removeNewline_spec (h : StringAt tmp 0 text) (hne : text ≠ []) :
    ∃ tmp', removeNewline tmp = some tmp' ∧ StringAt tmp' 0 (withoutNewline text) := by
  obtain ⟨value, c, rfl⟩ := List.eq_nil_or_concat' text |>.resolve_left hne
  have hlen : (value ++ [c]).length = value.length + 1 := by
    rw [List.length_append, List.length_singleton]
  rw [removeNewline, h.strlen, Option.bind_eq_bind, Option.bind_some, hlen,
    if_neg (Nat.succ_ne_zero _), Nat.add_sub_cancel, h.get_last, withoutNewline_snoc]
  split_ifs
  · obtain ⟨tmp', hwrite, -, hcut⟩ := h.cut_last
    exact ⟨tmp', hwrite, hcut⟩
  · exact ⟨tmp, rfl, h⟩

/-- **What is in `tmp` is stored**. -/
theorem SensorT.store_spec (h : StringAt tmp 0 text) (hlen : text.length < SYSFS_MAXLEN)
    (hroom : map.type = .string → SYSFS_MAXLEN ≤ (buf.string map.offset).size) :
    ∃ buf', buf.store atof map tmp = some buf' ∧ buf'.Holds atof map text := by
  simp only [SensorT.store, SensorT.Holds]
  cases htype : map.type with
  | integer =>
    rw [h.readString]
    exact ⟨_, rfl, Function.update_self _ _ _⟩
  | string =>
    obtain ⟨p, hcopy, -, hstring⟩ := h.strlcpy (by omega : 0 < SYSFS_MAXLEN) (hroom htype)
    rw [List.take_of_length_le (by omega)] at hstring
    rw [hcopy]
    refine ⟨_, rfl, ?_⟩
    dsimp only
    rwa [Function.update_self]
  | float =>
    rw [h.readString]
    exact ⟨_, rfl, Function.update_self _ _ _⟩
  | integer64 =>
    rw [h.readString]
    exact ⟨_, rfl, Function.update_self _ _ _⟩

/-- What a content has behind its last byte is cleared, and then the last byte is, too. -/
theorem clearLast (hlen : (value ++ [c]).length < SYSFS_MAXLEN) :
    ∃ tmp, (stored SYSFS_MAXLEN (value ++ [c])).write ((value ++ [c]).length - 1) NUL = some tmp ∧
      StringAt tmp 0 (beforeNul value) := by
  rw [List.length_append, List.length_singleton] at hlen ⊢
  have hroom : value.length < SYSFS_MAXLEN := by omega
  rw [Nat.add_sub_cancel]
  refine ⟨_, if_pos hroom, stringAt_takeWhile hroom ?_⟩
  have hold : (List.range value.length).map (stored SYSFS_MAXLEN (value ++ [c])).get = value := by
    have htake := congrArg (List.take value.length) (map_range_stored SYSFS_MAXLEN (value ++ [c]))
    rwa [← List.map_take, List.take_range, min_eq_left (by simp; omega), List.append_assoc,
      List.take_left] at htake
  rw [Block.map_range_update, hold]

/-! ## The function as a whole -/

/-- The number of bytes that are read. -/
theorem length_take_lt (content : List Char) :
    (content.take (SYSFS_MAXLEN - 1)).length < SYSFS_MAXLEN := by
  have hle : (content.take (SYSFS_MAXLEN - 1)).length ≤ SYSFS_MAXLEN - 1 :=
    List.length_take_le _ _
  rw [SYSFS_MAXLEN] at hle ⊢
  omega

/-- The text that is read is in `tmp`. -/
theorem strlen_stored (content : List Char) :
    strlen (stored SYSFS_MAXLEN (content.take (SYSFS_MAXLEN - 1))) =
      some (beforeNul (content.take (SYSFS_MAXLEN - 1))).length :=
  (stringAt_takeWhile (length_take_lt content) (map_range_stored _ _)).strlen

/-- This is what the enumeration goes by. -/
theorem nodeText_eq (content : List Char) : nodeText (some content) =
    if beforeNul (content.take (SYSFS_MAXLEN - 1)) = [] then none
    else some (withoutNewline (beforeNul (content.take (SYSFS_MAXLEN - 1)).dropLast)) := rfl

/-- **A file without a text** is not read, as one that is not there. -/
theorem getNode_none (buf : SensorT F) (h : nodeText (some content) = none) :
    getNode atof (some buf) (some (.content content)) map = some (map.failed, none) := by
  rw [nodeText_eq, ite_eq_left_iff] at h
  have hnil : beforeNul (content.take (SYSFS_MAXLEN - 1)) = [] := by
    by_contra hne
    cases h hne
  rw [getNode, strlen_stored, Option.bind_eq_bind, Option.bind_some,
    if_pos (Or.inr (List.length_eq_zero_iff.mpr hnil))]

/-- In any other file, the last byte that is read is cleared, and then the newline is removed. -/
theorem getNode_snoc (atof : List Char → F) (buf : SensorT F) (map : SysfsMap)
    (hbytes : content.take (SYSFS_MAXLEN - 1) = value ++ [c])
    (hfirst : beforeNul (value ++ [c]) ≠ []) :
    ∃ tmp, StringAt tmp 0 (beforeNul value) ∧
      getNode atof (some buf) (some (.content content)) map =
        (removeNewline tmp).bind fun tmp =>
          (buf.store atof map tmp).map fun buf => (0, some (tmp, buf)) := by
  have hlen := length_take_lt content
  have hstrlen := strlen_stored content
  rw [hbytes] at hlen hstrlen
  obtain ⟨tmp, hwrite, hstring⟩ := clearLast hlen
  refine ⟨tmp, hstring, ?_⟩
  have hread : ¬ ((value ++ [c]).length = 0 ∨ (beforeNul (value ++ [c])).length = 0) := by
    rw [List.length_eq_zero_iff, List.length_eq_zero_iff, not_or]
    exact ⟨List.concat_ne_nil c value, hfirst⟩
  rw [getNode, hbytes, hstrlen, Option.bind_eq_bind, Option.bind_some, if_neg hread, hwrite,
    Option.bind_eq_bind, Option.bind_some]
  refine congrArg (Option.bind _) (funext fun tmp => ?_)
  exact (Option.map_eq_bind ..).symm

/-- What there is of such a file. -/
theorem exists_snoc (hfirst : beforeNul (content.take (SYSFS_MAXLEN - 1)) ≠ []) :
    ∃ value c, content.take (SYSFS_MAXLEN - 1) = value ++ [c] := by
  refine (List.eq_nil_or_concat' _).resolve_left fun hnil => hfirst ?_
  rw [hnil]
  rfl

/-- **Where nothing is left** in front of the byte that is cleared, the newline is looked for
outside. -/
theorem getNode_outside (buf : SensorT F)
    (hfirst : beforeNul (content.take (SYSFS_MAXLEN - 1)) ≠ [])
    (hlast : beforeNul (content.take (SYSFS_MAXLEN - 1)).dropLast = []) :
    getNode atof (some buf) (some (.content content)) map = none := by
  obtain ⟨value, c, hbytes⟩ := exists_snoc hfirst
  rw [hbytes] at hfirst hlast
  rw [List.dropLast_concat] at hlast
  obtain ⟨tmp, hstring, heq⟩ := getNode_snoc atof buf map hbytes hfirst
  rw [hlast] at hstring
  rw [heq, removeNewline_nil hstring, Option.bind_none]

/-- **Any other text** is in `tmp` without its last character and a newline, and is stored. -/
theorem getNode_some (atof : List Char → F)
    (hroom : map.type = .string → SYSFS_MAXLEN ≤ (buf.string map.offset).size)
    (hfirst : beforeNul (content.take (SYSFS_MAXLEN - 1)) ≠ [])
    (hlast : beforeNul (content.take (SYSFS_MAXLEN - 1)).dropLast ≠ []) :
    ∃ tmp buf', getNode atof (some buf) (some (.content content)) map =
        some (0, some (tmp, buf')) ∧
      StringAt tmp 0 (withoutNewline (beforeNul (content.take (SYSFS_MAXLEN - 1)).dropLast)) ∧
      buf'.Holds atof map
        (withoutNewline (beforeNul (content.take (SYSFS_MAXLEN - 1)).dropLast)) := by
  obtain ⟨value, c, hbytes⟩ := exists_snoc hfirst
  have hlen := length_take_lt content
  rw [hbytes] at hfirst hlast hlen ⊢
  rw [List.dropLast_concat] at hlast ⊢
  rw [List.length_append, List.length_singleton] at hlen
  obtain ⟨tmp, hstring, heq⟩ := getNode_snoc atof buf map hbytes hfirst
  obtain ⟨tmp', hremove, hstring'⟩ := removeNewline_spec hstring hlast
  have hshort : (withoutNewline (beforeNul value)).length < SYSFS_MAXLEN :=
    (length_le_of_beforeNul value).trans_lt (by omega)
  obtain ⟨buf', hstore, hholds⟩ := SensorT.store_spec hstring' hshort hroom
  refine ⟨tmp', buf', ?_, hstring', hholds⟩
  rw [heq, hremove, Option.bind_some, hstore, Option.map_some]

/-! ## When it is right -/

/-- Nothing is removed from a text without a newline at the end. -/
theorem withoutNewline_eq_self_iff : withoutNewline text = text ↔ text.getLast? ≠ some '\n' := by
  rcases List.eq_nil_or_concat' text with rfl | ⟨value, c, rfl⟩
  · exact iff_of_true rfl (by simp)
  · rw [withoutNewline_snoc, List.getLast?_concat]
    split_ifs with hc
    · simp [hc]
    · simp [hc]

/-- **A line** is read as the text in it. -/
theorem IsLine.read (h : IsLine content) : beforeNul content ≠ [] ∧
    beforeNul content.dropLast ≠ [] ∧ NUL ∉ withoutNewline content ∧
    withoutNewline (beforeNul content.dropLast) = withoutNewline content := by
  obtain ⟨value, rfl, hne, hnul, hlast⟩ := h
  have hline : NUL ∉ value ++ ['\n'] := by
    rw [List.mem_append, List.mem_singleton, not_or]
    exact ⟨hnul, by decide⟩
  rw [beforeNul, takeWhile_ne_nul hline, List.dropLast_concat, beforeNul, takeWhile_ne_nul hnul,
    withoutNewline_snoc, if_pos rfl, withoutNewline_eq_self_iff]
  exact ⟨List.concat_ne_nil _ _, hne, hnul, hlast⟩

/-- What is read so is a line. -/
theorem isLine_of_read (hlast : beforeNul content.dropLast ≠ [])
    (hnul : NUL ∉ withoutNewline content)
    (hread : withoutNewline (beforeNul content.dropLast) = withoutNewline content) :
    IsLine content := by
  rcases List.eq_nil_or_concat' content with rfl | ⟨value, c, rfl⟩
  · exact absurd rfl hlast
  rw [List.dropLast_concat] at hlast hread
  rw [withoutNewline_snoc] at hnul hread
  by_cases hc : c = '\n'
  · rw [if_pos hc] at hnul hread
    rw [beforeNul, takeWhile_ne_nul hnul] at hlast hread
    exact ⟨value, by rw [hc], hlast, hnul, withoutNewline_eq_self_iff.mp hread⟩
  · -- a character is missing
    rw [if_neg hc] at hread
    have hle := length_le_of_beforeNul value
    rw [hread, List.length_append, List.length_singleton] at hle
    omega

/-- **No more than a newline is lost** if and only if the content is a line. -/
theorem getNode_iff (atof : List Char → F) (buf : SensorT F) (map : SysfsMap)
    (content : List Char) (hlen : content.length < SYSFS_MAXLEN)
    (hroom : map.type = .string → SYSFS_MAXLEN ≤ (buf.string map.offset).size) :
    GetNodeRight atof buf content map ↔ IsLine content := by
  have htake : content.take (SYSFS_MAXLEN - 1) = content := List.take_of_length_le (by omega)
  refine ⟨?_, ?_⟩
  · rintro ⟨tmp, buf', hget, hstring, -⟩
    by_cases hfirst : beforeNul content = []
    · rw [getNode_none buf (by rw [nodeText_eq, htake, if_pos hfirst])] at hget
      simp at hget
    by_cases hlast : beforeNul content.dropLast = []
    · rw [getNode_outside buf (by rwa [htake]) (by rwa [htake])] at hget
      cases hget
    obtain ⟨tmp', buf'', hget', hstring', -⟩ :=
      getNode_some atof hroom (by rwa [htake]) (by rwa [htake])
    rw [htake] at hstring'
    obtain ⟨rfl, rfl⟩ : tmp' = tmp ∧ buf'' = buf' := by
      simpa using hget'.symm.trans hget
    exact isLine_of_read hlast hstring.first (hstring'.unique hstring)
  · intro h
    obtain ⟨hfirst, hlast, hnul, hread⟩ := h.read
    obtain ⟨tmp, buf', hget, hstring, hholds⟩ :=
      getNode_some atof hroom (by rwa [htake]) (by rwa [htake])
    rw [htake, hread] at hstring hholds
    exact ⟨tmp, buf', hget, hstring, hholds⟩

/-- A name with a newline. -/
theorem getNode_of_line : (['1', '2', '\n'] : List Char).length < SYSFS_MAXLEN ∧
    SYSFS_MAXLEN ≤ ((SensorT.cleared (0 : ℤ)).string .name).size ∧
    (GetNodeRight atoi (SensorT.cleared 0) ['1', '2', '\n'] ⟨.name, .string, true⟩ ↔
      IsLine ['1', '2', '\n']) :=
  ⟨by decide, le_rfl, getNode_iff atoi (SensorT.cleared 0) ⟨.name, .string, true⟩ _ (by decide)
    fun _ => le_rfl⟩

/-- A number without a newline: its last digit is lost. -/
theorem getNode_cut :
    ¬ GetNodeRight atoi (SensorT.cleared 0) ['1', '2'] ⟨.version, .integer, true⟩ ∧
    ∃ tmp buf, getNode atoi (some (SensorT.cleared 0)) (some (.content ['1', '2']))
        ⟨.version, .integer, true⟩ = some (0, some (tmp, buf)) ∧ buf.integer .version = 1 := by
  have hcut : ∃ tmp buf, getNode atoi (some (SensorT.cleared 0)) (some (.content ['1', '2']))
      ⟨.version, .integer, true⟩ = some (0, some (tmp, buf)) ∧ buf.integer .version = 1 :=
    ⟨_, _, rfl, rfl⟩
  refine ⟨?_, hcut⟩
  obtain ⟨tmp, buf, hrun, hone⟩ := hcut
  rintro ⟨tmp', buf', hget, -, hholds⟩
  obtain ⟨rfl, rfl⟩ : tmp = tmp' ∧ buf = buf' := by simpa using hrun.symm.trans hget
  have htwelve : buf.integer .version = 12 := hholds
  omega

end OppoA37.Sensors
