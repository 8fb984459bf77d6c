import OppoA37.Lib.Block
import OppoA37.Sensors.Enumeration

/-!
# Calibration libraries

`loadCalLibs` reads the names of the libraries from a file, or takes the default. It loads each of
them and adds up the numbers of their algorithms, and then asks every library that was initialised
for its list and puts the algorithms into an array of that size.

* Nobody compares what the file holds with `buf` and `cal_libs`, or looks whether it was read.
* A library that gives no list was counted. Then slots at the end of the array stay as they were
  allocated, and `dump` reads them: `listless_dump`.

`loads_iff` says when neither happens.
-/

namespace OppoA37.Calibration

open Text

/-! ## Libraries -/

/-- A `sensor_cal_algo_t`. -/
structure CalAlgo where
  /-- `tag` -/
  tag : ℤ
  /-- `version` -/
  version : ℤ
  /-- `type` -/
  type : ℤ
  /-- `compatible`, which may be `NULL` -/
  compatible : Option (List String)
  /-- `module` is not `NULL` -/
  hasModule : Bool
  /-- `methods`, which may be `NULL`: whether `convert` is not -/
  convert : Option Bool
  deriving DecidableEq, Repr

/-- A `sensor_cal_methods_t`, by what its functions return. -/
structure CalMethods where
  /-- `init` -/
  init : ℤ
  /-- `get_algo_list`, which may be `NULL`, or fail -/
  getAlgoList : Option (Option (List CalAlgo))

/-- A `sensor_cal_module_t`. It lists as many algorithms as it says. -/
structure CalModule where
  /-- `number` -/
  number : UInt32
  /-- `methods`, which may be `NULL` -/
  methods : Option CalMethods
  length_eq : ∀ ms ∈ methods, ∀ list ∈ ms.getAlgoList, ∀ algos ∈ list,
    algos.length = number.toNat

/-- What a path of a library leads to. -/
inductive Library where
  /-- `access` fails -/
  | missing
  /-- `dlopen` fails -/
  | unloadable
  /-- `dlsym` fails -/
  | noSymbol
  /-- the module -/
  | found (m : CalModule)

/-- The configuration file. -/
inductive CalConfig where
  /-- `open` fails -/
  | unopened
  /-- `read` fails -/
  | unreadable
  /-- its content -/
  | content (text : List Char)

/-- What goes wrong. -/
inductive Fault where
  /-- a write outside of an array -/
  | outside
  /-- `NULL` is dereferenced -/
  | null
  /-- a slot is read that was never written -/
  | uninitialised
  deriving DecidableEq, Repr

/-- `MAX_CAL_LIBS` -/
def MAX_CAL_LIBS : ℕ := 32

/-- `MAX_CAL_CFG_LEN` -/
def MAX_CAL_CFG_LEN : ℕ := 1024

/-- `DEFAULT_CAL_LIB` -/
def DEFAULT_CAL_LIB : List Char := "libcalmodule_common.so".toList

/-- `PATH_MAX` -/
def PATH_MAX : ℕ := 4096

/-- `CAL_LIB_PATH` -/
def CAL_LIB_PATH (lp64 : Bool) : List Char :=
  (if lp64 then "/system/vendor/lib64/" else "/system/vendor/lib/").toList

/-- `SENSOR_CAL_ALGO_TAG` -/
def SENSOR_CAL_ALGO_TAG : ℤ := 0x74616373

/-! ## Loading -/

/-- What the device is like: its pointers, and what the libraries do when they are loaded, the
`i`th of them at its path. -/
structure Device where
  /-- `__LP64__` -/
  lp64 : Bool
  /-- the libraries -/
  library : ℕ → List Char → Library

/-- The names are put to `cal_libs`, with a `NULL` behind them. -/
def pushTokens (libs : Block (Option (List Char))) (tokens : List (List Char)) :
    Except Fault (Block (Option (List Char)) × ℕ) :=
  match (libs.writeList 0 (tokens.map some)).bind (·.write tokens.length none) with
  | none => .error .outside
  | some libs => .ok (libs, tokens.length)

/-- `cal_libs` with the default library -/
def defaultLibs : Block (Option (List Char)) where
  size := MAX_CAL_LIBS
  get i := if i = 0 then some DEFAULT_CAL_LIB else none

/-- The part of `loadCalLibs` that reads the file: `cal_libs` and `count`. -/
def readConfig (cfg : CalConfig) : Except Fault (Block (Option (List Char)) × ℕ) :=
  match cfg with
  | .unopened => .ok (defaultLibs, 1)
  -- -1 is a large `size_t`, and `buf[len]` is written
  | .unreadable => .error .outside
  | .content text =>
    let buf := text.take MAX_CAL_CFG_LEN
    if 0 < buf.length then
      if buf.length < MAX_CAL_CFG_LEN then
        pushTokens defaultLibs (words (· = '\n') (Sensors.beforeNul buf))
      else .error .outside
    else .ok (defaultLibs, 1)

/-- The path of a library. -/
def libPath (d : Device) (name : List Char) : List Char :=
  (CAL_LIB_PATH d.lp64 ++ name).take (PATH_MAX - 1)

/-- A turn of the loop that loads the libraries: `modules[i]`. -/
def loadLib (lib : Library) : Except Fault (Option CalModule) :=
  match lib with
  | .missing | .unloadable | .noSymbol => .ok none
  | .found m =>
    match m.methods with
    | none => .error .null
    | some methods => .ok (if methods.init ≠ 0 then none else some m)

/-- A `CalibrationManager`. -/
structure CalibrationManager where
  /-- `algo_list`, which may be `NULL`; in it, slots that were written -/
  algoList : Option (Block (Option CalAlgo))
  /-- `algo_count` -/
  algoCount : UInt32

/-- What `get_algo_list` gives, if it is there and succeeds. -/
def CalModule.list (m : CalModule) : Option (List CalAlgo) :=
  match m.methods with
  | none => none
  | some methods =>
    match methods.getAlgoList with
    | none => none
    | some list => list

/-- The loop that fills `algo_list`. Before the first write outside, no index wraps. -/
def fillAlgos : List (Option CalModule) → ℕ → Block (Option CalAlgo) →
    Except Fault (Block (Option CalAlgo))
  | [], _, b => .ok b
  | none :: modules, tmp, b => fillAlgos modules tmp b
  | some m :: modules, tmp, b =>
    match m.list with
    | none => fillAlgos modules tmp b
    | some list =>
      match b.writeList tmp (list.map some) with
      | none => .error .outside
      | some b => fillAlgos modules (tmp + m.number.toNat) b

/-- `modules`, for the names in `cal_libs`. -/
def loadLibs (d : Device) (names : List (List Char)) : Except Fault (List (Option CalModule)) :=
  names.zipIdx.mapM fun (name, i) => loadLib (d.library i (libPath d name))

/-- `algo_count` after the libraries were loaded. -/
def algoCount (modules : List (Option CalModule)) : UInt32 :=
  (modules.reduceOption.map CalModule.number).sum

/-- `loadCalLibs` up to its call of `dump` -/
def loadAlgos (d : Device) (cfg : CalConfig) : Except Fault CalibrationManager := do
  let (calLibs, count) ← readConfig cfg
  let modules ← loadLibs d ((List.range count).map calLibs.get).reduceOption
  let algoCount := algoCount modules
  if algoCount ≠ 0 then
    let algoList ← fillAlgos modules 0 ⟨algoCount.toNat, fun _ => none⟩
    .ok ⟨some algoList, algoCount⟩
  else .ok ⟨none, algoCount⟩

/-! ## Using -/

/-- What is looked at of a `sensor_t`. -/
structure Sensor where
  /-- `type` -/
  type : ℤ
  /-- `name` -/
  name : String

/-- The table in `type_to_name`. -/
def typeNames : List (ℤ × String) :=
  [(1, "accelerometer"), (2, "compass"), (3, "orientation"), (4, "gyroscope"), (5, "light"),
    (6, "pressure"), (7, "temperature"), (8, "proximity"), (9, "gravity"),
    (10, "linear_acceleration"), (11, "rotation_vector"), (12, "relative_humidity"),
    (13, "ambient_temperature"), (14, "magnetic_field_uncalibrated"), (15, "game_rotation_vector"),
    (16, "gyroscope_uncalibrated"), (17, "significant_motion"), (18, "step_detector"),
    (19, "step_counter"), (20, "geomagnetic_field"), (65537, "pocket")]

/-- `type_to_name` -/
def typeToName (type : ℤ) : String := (typeNames.lookup type).getD ""

/-- `check_algo` -/
def checkAlgo (a : CalAlgo) : ℤ :=
  if a.tag ≠ SENSOR_CAL_ALGO_TAG then -1
  else if a.compatible = none then -1
  else if a.hasModule = false then -1
  else if a.convert = none then -1
  else if a.convert = some false then -1
  else 0

namespace CalibrationManager

/-- `*algo_list[i]` -/
def slot (m : CalibrationManager) (i : ℕ) : Except Fault CalAlgo :=
  match m.algoList with
  | none => .error .null
  | some b =>
    if i < b.size then
      match b.get i with
      | none => .error .uninitialised
      | some a => .ok a
    else .error .outside

/-- The loop in `getCalAlgo`, with what is left of it. -/
def search (m : CalibrationManager) (s : Sensor) :
    ℕ → ℕ → Option CalAlgo → Except Fault (Option CalAlgo)
  | 0, _, tmp => .ok tmp
  | n + 1, i, tmp => do
    let a ← m.slot i
    if a.type ≠ s.type ∨ checkAlgo a ≠ 0 then m.search s n (i + 1) tmp
    else
      match a.compatible with
      | none => .error .null
      | some names =>
        -- exactly compatible
        if s.name ∈ names then .ok (some a)
        else m.search s n (i + 1) (if typeToName s.type ∈ names then some a else tmp)

/-- `getCalAlgo` -/
def getCalAlgo (m : CalibrationManager) (s : Option Sensor) : Except Fault (Option CalAlgo) :=
  match s with
  | none => .ok none
  | some s => m.search s m.algoCount.toNat 0 none

/-- `dump`, with what it logs of each algorithm. -/
def dump (m : CalibrationManager) : Except Fault (List (ℤ × ℤ × ℤ × List String)) :=
  (List.range m.algoCount.toNat).mapM fun i => do
    let a ← m.slot i
    match a.compatible with
    | none => .error .null
    | some names => .ok (a.tag, a.version, a.type, names)

end CalibrationManager

/-- `loadCalLibs` -/
def loadCalLibs (d : Device) (cfg : CalConfig) : Except Fault CalibrationManager := do
  let m ← loadAlgos d cfg
  let _ ← m.dump
  .ok m

/-! ## What is claimed -/

/-- The libraries that the file names, one a line; without a line in it, there is none. -/
def CalConfig.names : CalConfig → List (List Char)
  | .content text =>
    if text = [] then [DEFAULT_CAL_LIB] else words (· = '\n') (Sensors.beforeNul text)
  | _ => [DEFAULT_CAL_LIB]

/-- The module of a library that is initialised. -/
def Library.initialised : Library → Option CalModule
  | .found m =>
    match m.methods with
    | none => none
    | some methods => if methods.init ≠ 0 then none else some m
  | _ => none

/-- The libraries, in the order of the file. -/
def libraries (d : Device) (cfg : CalConfig) : List Library :=
  cfg.names.zipIdx.map fun (name, i) => d.library i (libPath d name)

/-- Those that are initialised. -/
def initialised (d : Device) (cfg : CalConfig) : List CalModule :=
  (libraries d cfg).filterMap Library.initialised

/-- The algorithms of those that give a list too. -/
def listed (d : Device) (cfg : CalConfig) : List CalAlgo :=
  (initialised d cfg).flatMap fun m => m.list.getD []

/-- The slots of `algo_list`. -/
def CalibrationManager.slots (m : CalibrationManager) : List (Option CalAlgo) :=
  match m.algoList with
  | none => []
  | some b => (List.range b.size).map b.get

/-- The manager has just these algorithms. -/
structure CalibrationManager.Holds (m : CalibrationManager) (algos : List CalAlgo) : Prop where
  /-- what is in the slots -/
  slots : m.slots = algos.map some
  /-- how many there are -/
  count : m.algoCount.toNat = algos.length

/-- The libraries are loaded as they should be. -/
structure LoadsRight (d : Device) (cfg : CalConfig) : Prop where
  /-- nothing is written outside of an array -/
  inside : loadCalLibs d cfg ≠ .error .outside
  /-- the algorithms that were listed are there, and nothing else is read -/
  holds : ∃ m, loadAlgos d cfg = .ok m ∧ m.Holds (listed d cfg) ∧
    (∀ s, m.getCalAlgo s ≠ .error .uninitialised) ∧ m.dump ≠ .error .uninitialised

/-- The content of the file fits. -/
def CalConfig.Fits : CalConfig → Prop
  | .unopened => True
  | .unreadable => False
  | .content text => text.length < MAX_CAL_CFG_LEN ∧
      (words (· = '\n') (Sensors.beforeNul text)).length < MAX_CAL_LIBS

/-- A module has methods. -/
def Library.HasMethods (lib : Library) : Prop := ∀ m, lib = .found m → m.methods ≠ none

/-- What makes loading go well. -/
structure Loadable (d : Device) (cfg : CalConfig) : Prop where
  /-- the file can be read, and fits -/
  fits : cfg.Fits
  /-- every module has methods -/
  methods : ∀ lib ∈ libraries d cfg, lib.HasMethods
  /-- modules that are initialised but give no list have no algorithms, up to a wrap -/
  unlisted : 2 ^ 32 ∣
    (((initialised d cfg).filter (·.list.isNone)).map fun m => m.number.toNat).sum
  /-- the algorithms can be counted -/
  few : (listed d cfg).length < 2 ^ 32

/-! ## The file -/

variable {d : Device} {cfg : CalConfig}

/-- The names in `cal_libs`. -/
def names (libs : Block (Option (List Char))) (count : ℕ) : List (List Char) :=
  ((List.range count).map libs.get).reduceOption

/-- Names that fit, with a `NULL` behind them. -/
theorem pushTokens_of_lt {libs : Block (Option (List Char))} {tokens : List (List Char)}
    (h : tokens.length < libs.size) : ∃ libs', pushTokens libs tokens = .ok (libs', tokens.length) ∧
      names libs' tokens.length = tokens := by
  have hle : 0 + (tokens.map some).length ≤ libs.size := by
    rw [List.length_map, Nat.zero_add]
    exact h.le
  obtain ⟨b, hb, hsize, hget⟩ := Block.writeList_of_le hle
  rw [List.length_map, Nat.zero_add, List.range_zero, List.map_nil, List.nil_append] at hget
  refine ⟨{ b with get := Function.update b.get tokens.length none }, ?_, ?_⟩
  · rw [pushTokens, hb, Option.bind_some, Block.write, if_pos (by rw [hsize]; exact h)]
  · have hnull : (List.range tokens.length).map (Function.update b.get tokens.length none) =
        (List.range tokens.length).map b.get :=
      List.map_congr_left fun i hi => Function.update_of_ne (List.mem_range.mp hi).ne _ _
    rw [names, hnull, hget]
    rw [List.reduceOption, List.filterMap_map]
    exact List.filterMap_some

/-- Names that do not fit. -/
theorem pushTokens_of_le {libs : Block (Option (List Char))} {tokens : List (List Char)}
    (h : libs.size ≤ tokens.length) : pushTokens libs tokens = .error .outside := by
  rw [pushTokens]
  rcases h.lt_or_eq with hlt | heq
  · rw [Block.writeList_of_lt (Nat.zero_le _) (by rw [List.length_map, Nat.zero_add]; exact hlt)]
    rfl
  · have hle : 0 + (tokens.map some).length ≤ libs.size := by
      rw [List.length_map, Nat.zero_add, heq]
    obtain ⟨b, hb, hsize, -⟩ := Block.writeList_of_le hle
    rw [hb, Option.bind_some, Block.write, if_neg (by rw [hsize, heq]; exact lt_irrefl _)]

/-- A file that fits gives its names. -/
theorem readConfig_of_fits (h : cfg.Fits) : ∃ libs count, readConfig cfg = .ok (libs, count) ∧
    names libs count = cfg.names := by
  cases cfg with
  | unopened => exact ⟨defaultLibs, 1, rfl, rfl⟩
  | unreadable => exact h.elim
  | content text =>
    obtain ⟨hlen, hlines⟩ := h
    rw [readConfig, List.take_of_length_le hlen.le, CalConfig.names]
    split_ifs with hpos hnil hnil
    · rw [hnil] at hpos
      exact absurd hpos (lt_irrefl 0)
    · obtain ⟨libs, hpush, hnames⟩ := @pushTokens_of_lt defaultLibs _ hlines
      exact ⟨libs, _, hpush, hnames⟩
    · exact ⟨defaultLibs, 1, rfl, rfl⟩
    · exact absurd (List.length_pos_iff.mpr hnil) hpos

/-- A file that does not fit is written outside of its array. -/
theorem readConfig_of_not_fits (h : ¬ cfg.Fits) : readConfig cfg = .error .outside := by
  cases cfg with
  | unopened => exact absurd trivial h
  | unreadable => rfl
  | content text =>
    rw [readConfig]
    rcases lt_or_ge text.length MAX_CAL_CFG_LEN with hlen | hlen
    · have hlines : MAX_CAL_LIBS ≤ (words (· = '\n') (Sensors.beforeNul text)).length :=
        not_lt.mp fun hlines => h ⟨hlen, hlines⟩
      have hpos : 0 < text.length := by
        rw [List.length_pos_iff]
        rintro rfl
        exact absurd hlines (by decide)
      rw [List.take_of_length_le hlen.le, if_pos hpos, if_pos hlen]
      exact pushTokens_of_le hlines
    · have hall : (text.take MAX_CAL_CFG_LEN).length = MAX_CAL_CFG_LEN := by
        rw [List.length_take, min_eq_left hlen]
      rw [hall, if_pos (by decide), if_neg (lt_irrefl _)]

/-! ## The libraries -/

/-- What went well goes on. -/
theorem ok_bind {α β : Type} (a : α) (f : α → Except Fault β) : (Except.ok a >>= f) = f a := rfl

/-- A module with methods is kept if it is initialised. -/
theorem loadLib_of_methods {lib : Library} (h : lib.HasMethods) :
    loadLib lib = .ok lib.initialised := by
  cases lib with
  | missing | unloadable | noSymbol => rfl
  | found m =>
    obtain ⟨methods, hm⟩ := Option.ne_none_iff_exists'.mp (h m rfl)
    rw [loadLib, Library.initialised, hm]

/-- `NULL` is dereferenced for one without. -/
theorem loadLib_of_not {lib : Library} (h : ¬ lib.HasMethods) : loadLib lib = .error .null := by
  rw [Library.HasMethods] at h
  push Not at h
  obtain ⟨m, rfl, hm⟩ := h
  rw [loadLib, hm]

/-- The loop over libraries that have methods. -/
theorem mapM_loadLib {libs : List Library} (h : ∀ lib ∈ libs, lib.HasMethods) :
    libs.mapM loadLib = .ok (libs.map Library.initialised) := by
  induction libs with
  | nil => rfl
  | cons lib libs ih =>
    rw [List.forall_mem_cons] at h
    rw [List.mapM_cons, loadLib_of_methods h.1, ih h.2]
    rfl

/-- It ends at the first one that has none. -/
theorem mapM_loadLib_of_not {libs : List Library} (h : ¬ ∀ lib ∈ libs, lib.HasMethods) :
    libs.mapM loadLib = .error .null := by
  induction libs with
  | nil => exact absurd (List.forall_mem_nil _) h
  | cons lib libs ih =>
    rw [List.mapM_cons]
    by_cases hlib : lib.HasMethods
    · rw [loadLib_of_methods hlib, ih fun hlibs => h (List.forall_mem_cons.mpr ⟨hlib, hlibs⟩)]
      rfl
    · rw [loadLib_of_not hlib]
      rfl

/-- A sum of counters, before it wraps. -/
theorem toNat_sum (ns : List UInt32) : ns.sum.toNat = (ns.map UInt32.toNat).sum % 2 ^ 32 := by
  induction ns with
  | nil => rfl
  | cons n ns ih =>
    rw [List.sum_cons, UInt32.toNat_add, ih, List.map_cons, List.sum_cons, Nat.add_mod_mod]

/-- The algorithms that are put to `algo_list`. -/
def algosOf (modules : List (Option CalModule)) : List CalAlgo :=
  modules.reduceOption.flatMap fun m => m.list.getD []

theorem algosOf_cons (m : CalModule) (modules : List (Option CalModule)) :
    algosOf (some m :: modules) = m.list.getD [] ++ algosOf modules := by
  rw [algosOf, List.reduceOption_cons_of_some, List.flatMap_cons]
  rfl

/-- A list has the length that was counted. -/
theorem CalModule.length_list {m : CalModule} {list : List CalAlgo} (h : m.list = some list) :
    list.length = m.number.toNat := by
  rw [CalModule.list] at h
  cases hms : m.methods with
  | none => rw [hms] at h; cases h
  | some ms =>
    rw [hms] at h
    dsimp only at h
    cases hlist : ms.getAlgoList with
    | none => rw [hlist] at h; cases h
    | some l =>
      rw [hlist] at h
      exact m.length_eq ms hms l hlist list h

/-- The slots are filled if there are enough of them, and else something is written outside. -/
theorem fillAlgos_spec (modules : List (Option CalModule)) {tmp : ℕ}
    {b : Block (Option CalAlgo)} (h : tmp ≤ b.size) :
    (tmp + (algosOf modules).length ≤ b.size →
      ∃ b', fillAlgos modules tmp b = .ok b' ∧ b'.size = b.size ∧
        (List.range (tmp + (algosOf modules).length)).map b'.get =
          (List.range tmp).map b.get ++ (algosOf modules).map some) ∧
    (b.size < tmp + (algosOf modules).length → fillAlgos modules tmp b = .error .outside) := by
  induction modules generalizing tmp b with
  | nil =>
    exact ⟨fun _ => ⟨b, rfl, rfl, (List.append_nil _).symm⟩,
      fun hlt => absurd h (not_le.mpr hlt)⟩
  | cons m modules ih =>
    cases m with
    | none => exact ih h
    | some m =>
      rw [fillAlgos, algosOf_cons]
      cases hlist : m.list with
      | none => exact ih h
      | some list =>
        have hnumber := CalModule.length_list hlist
        have hlen : (list.map some).length = list.length := List.length_map _
        rw [Option.getD_some, List.length_append, ← Nat.add_assoc, ← hnumber]
        rcases le_or_gt (tmp + list.length) b.size with hfits | hover
        · obtain ⟨b₁, hb₁, hsize, hget⟩ :=
            Block.writeList_of_le (hlen.symm ▸ hfits : tmp + (list.map some).length ≤ b.size)
          rw [hlen] at hget
          obtain ⟨hle, hlt⟩ := @ih (tmp + list.length) b₁ (hsize ▸ hfits)
          dsimp only
          rw [hb₁]
          refine ⟨fun hall => ?_, fun hall => hlt (hsize ▸ hall)⟩
          obtain ⟨b', hb', hsize', hget'⟩ := hle (hsize ▸ hall)
          refine ⟨b', hb', hsize'.trans hsize, ?_⟩
          rw [hget', hget, List.map_append, List.append_assoc]
        · have hnone := Block.writeList_of_lt h (hlen.symm ▸ hover :
            b.size < tmp + (list.map some).length)
          dsimp only
          rw [hnone]
          exact ⟨fun hall => absurd hall (by omega), fun _ => rfl⟩

/-! ## What is read -/

section Holds

variable {m : CalibrationManager} {algos : List CalAlgo}

/-- The slots that are counted were written. -/
theorem CalibrationManager.Holds.slot (h : m.Holds algos) {i : ℕ} (hi : i < m.algoCount.toNat) :
    ∃ a, m.slot i = .ok a := by
  obtain ⟨hslots, hcount⟩ := h
  rw [hcount] at hi
  rw [CalibrationManager.slots] at hslots
  rw [CalibrationManager.slot]
  cases hlist : m.algoList with
  | none =>
    rw [hlist] at hslots
    rw [List.map_eq_nil_iff.mp hslots.symm] at hi
    exact absurd hi (Nat.not_lt_zero i)
  | some b =>
    rw [hlist] at hslots
    have hsize : b.size = algos.length := by
      have hlen := congrArg List.length hslots
      rwa [List.length_map, List.length_range, List.length_map] at hlen
    have hget : some (b.get i) = some (some algos[i]) := by
      have hi' := congrArg (·[i]?) hslots
      simpa [hsize, hi] using hi'
    refine ⟨algos[i], ?_⟩
    dsimp only
    rw [if_pos (hsize ▸ hi), Option.some.inj hget]

/-- `getCalAlgo` reads no others. -/
theorem CalibrationManager.Holds.search (h : m.Holds algos) (s : Sensor) {n i : ℕ}
    (tmp : Option CalAlgo) (hn : i + n = m.algoCount.toNat) :
    m.search s n i tmp ≠ .error .uninitialised := by
  induction n generalizing i tmp with
  | zero => exact fun heq => by cases heq
  | succ n ih =>
    obtain ⟨a, ha⟩ := h.slot (by omega : i < m.algoCount.toNat)
    rw [CalibrationManager.search, ha, ok_bind]
    have hrest : ∀ tmp, m.search s n (i + 1) tmp ≠ .error .uninitialised :=
      fun tmp => ih tmp (by omega)
    split_ifs with hskip
    · exact hrest tmp
    · cases a.compatible with
      | none => exact fun heq => by cases heq
      | some names =>
        dsimp only
        split_ifs with hexact
        · exact fun heq => by cases heq
        · exact hrest _
        · exact hrest _

/-- `dump` goes through the slots that are counted; only a `compatible` of `NULL` ends it. -/
theorem CalibrationManager.Holds.dump (h : m.Holds algos) :
    (∃ log, m.dump = .ok log) ∨ m.dump = .error .null := by
  have hall : ∀ i ∈ List.range m.algoCount.toNat, i < m.algoCount.toNat :=
    fun i => List.mem_range.mp
  rw [CalibrationManager.dump]
  revert hall
  generalize List.range m.algoCount.toNat = l
  intro hall
  induction l with
  | nil => exact Or.inl ⟨[], rfl⟩
  | cons i l ih =>
    rw [List.forall_mem_cons] at hall
    obtain ⟨a, ha⟩ := h.slot hall.1
    rw [List.mapM_cons, ha, ok_bind]
    cases a.compatible with
    | none => exact Or.inr rfl
    | some names =>
      rcases ih hall.2 with ⟨log, hlog⟩ | hnull
      · rw [hlog]
        exact Or.inl ⟨_, rfl⟩
      · rw [hnull]
        exact Or.inr rfl

/-- So `dump` reads what was written. -/
theorem CalibrationManager.Holds.dump_ne (h : m.Holds algos) :
    m.dump ≠ .error .uninitialised := by
  rcases h.dump with ⟨log, hlog⟩ | hnull
  · rw [hlog]
    exact fun heq => by cases heq
  · rw [hnull]
    exact fun heq => by cases heq

end Holds

/-! ## Loading as a whole -/

/-- `modules` after the libraries were loaded. -/
def modules (d : Device) (cfg : CalConfig) : List (Option CalModule) :=
  (libraries d cfg).map Library.initialised

theorem reduceOption_modules (d : Device) (cfg : CalConfig) :
    (modules d cfg).reduceOption = initialised d cfg := by
  rw [modules, initialised, List.reduceOption, List.filterMap_map]
  rfl

theorem algosOf_modules (d : Device) (cfg : CalConfig) :
    algosOf (modules d cfg) = listed d cfg := by
  rw [algosOf, reduceOption_modules]
  rfl

/-- What is counted is what is listed, and what is not. -/
theorem toNat_algoCount (d : Device) (cfg : CalConfig) :
    (algoCount (modules d cfg)).toNat = ((listed d cfg).length +
      (((initialised d cfg).filter (·.list.isNone)).map fun m => m.number.toNat).sum) % 2 ^ 32 := by
  rw [algoCount, toNat_sum, reduceOption_modules, listed]
  congr 1
  induction initialised d cfg with
  | nil => rfl
  | cons m ms ih =>
    rw [List.map_cons, List.map_cons, List.sum_cons, ih, List.flatMap_cons, List.length_append]
    cases hlist : m.list with
    | none =>
      rw [List.filter_cons_of_pos (by rw [hlist]; rfl), List.map_cons, List.sum_cons,
        Option.getD_none, List.length_nil]
      omega
    | some list =>
      have hlen := CalModule.length_list hlist
      rw [List.filter_cons_of_neg (by rw [hlist]; exact Bool.false_ne_true), Option.getD_some]
      omega

/-- The array has a slot for each algorithm, and no more, when those that are not listed do not
count. -/
theorem toNat_algoCount_eq_iff (d : Device) (cfg : CalConfig) :
    (algoCount (modules d cfg)).toNat = (listed d cfg).length ↔
      2 ^ 32 ∣ (((initialised d cfg).filter (·.list.isNone)).map fun m => m.number.toNat).sum ∧
        (listed d cfg).length < 2 ^ 32 := by
  rw [toNat_algoCount]
  generalize (listed d cfg).length = t
  generalize (((initialised d cfg).filter (·.list.isNone)).map fun m => m.number.toNat).sum = n
  refine ⟨?_, ?_⟩
  · intro h
    have hlt : t < 2 ^ 32 := h ▸ Nat.mod_lt _ (Nat.two_pow_pos 32)
    have hcong : t + n ≡ t + 0 [MOD 2 ^ 32] := by
      rw [Nat.ModEq, h, Nat.add_zero, Nat.mod_eq_of_lt hlt]
    exact ⟨(Nat.modEq_zero_iff_dvd).mp (Nat.ModEq.add_left_cancel' t hcong), hlt⟩
  · rintro ⟨⟨k, rfl⟩, hlt⟩
    rw [Nat.add_mul_mod_self_left, Nat.mod_eq_of_lt hlt]

/-- Loading when the file fits. -/
theorem loadAlgos_of_fits (hfits : cfg.Fits) :
    loadAlgos d cfg = ((libraries d cfg).mapM loadLib >>= fun modules =>
      if algoCount modules ≠ 0 then
        fillAlgos modules 0 ⟨(algoCount modules).toNat, fun _ => none⟩ >>= fun algoList =>
          .ok ⟨some algoList, algoCount modules⟩
      else .ok ⟨none, algoCount modules⟩) := by
  obtain ⟨libs, count, hread, hnames⟩ := readConfig_of_fits hfits
  have hlibs : loadLibs d (names libs count) = (libraries d cfg).mapM loadLib := by
    rw [loadLibs, hnames, libraries, List.mapM_map]
    rfl
  rw [loadAlgos, hread, ok_bind]
  show loadLibs d (names libs count) >>= _ = _
  rw [hlibs]

/-- Loading when the modules have methods too. -/
theorem loadAlgos_of_methods (hfits : cfg.Fits)
    (hmethods : ∀ lib ∈ libraries d cfg, lib.HasMethods) :
    loadAlgos d cfg =
      if algoCount (modules d cfg) ≠ 0 then
        fillAlgos (modules d cfg) 0 ⟨(algoCount (modules d cfg)).toNat, fun _ => none⟩ >>=
          fun algoList => .ok ⟨some algoList, algoCount (modules d cfg)⟩
      else .ok ⟨none, algoCount (modules d cfg)⟩ := by
  rw [loadAlgos_of_fits hfits, mapM_loadLib hmethods, ok_bind]
  rfl

/-- Then `algo_count` is what was counted. -/
theorem algoCount_of_loadAlgos (hfits : cfg.Fits)
    (hmethods : ∀ lib ∈ libraries d cfg, lib.HasMethods) {m : CalibrationManager}
    (h : loadAlgos d cfg = .ok m) : m.algoCount = algoCount (modules d cfg) := by
  rw [loadAlgos_of_methods hfits hmethods] at h
  split_ifs at h
  · cases hfill : fillAlgos (modules d cfg) 0
      ⟨(algoCount (modules d cfg)).toNat, fun _ => none⟩ with
    | error fault =>
      rw [hfill] at h
      cases h
    | ok b =>
      rw [hfill, ok_bind] at h
      obtain rfl := Except.ok.inj h
      rfl
  · obtain rfl := Except.ok.inj h
    rfl

/-- What can be loaded is loaded. -/
theorem Loadable.holds (h : Loadable d cfg) :
    ∃ m, loadAlgos d cfg = .ok m ∧ m.Holds (listed d cfg) := by
  have hcount := (toNat_algoCount_eq_iff d cfg).mpr ⟨h.unlisted, h.few⟩
  rw [loadAlgos_of_methods h.fits h.methods]
  split_ifs with hzero
  · have hlen : 0 + (algosOf (modules d cfg)).length = (algoCount (modules d cfg)).toNat := by
      rw [algosOf_modules, Nat.zero_add, hcount]
    obtain ⟨b, hb, hsize, hget⟩ := (fillAlgos_spec (modules d cfg)
      (Nat.zero_le (Block.mk (algoCount (modules d cfg)).toNat fun _ => none).size)).1 hlen.le
    refine ⟨_, by rw [hb, ok_bind], ?_, hcount⟩
    rw [CalibrationManager.slots]
    dsimp only
    rw [hsize, ← hlen, hget, List.range_zero, List.map_nil, List.nil_append, algosOf_modules]
  · rw [not_not] at hzero
    rw [hzero] at hcount
    have hnil : listed d cfg = [] := List.eq_nil_of_length_eq_zero hcount.symm
    refine ⟨_, rfl, ?_, by rw [hzero]; exact hcount⟩
    rw [hnil]
    rfl

/-- **The libraries are loaded as they should be** if the file can be read and fits, every module
has methods, and a module that is initialised and gives no list has no algorithms. -/
theorem loads_iff (d : Device) (cfg : CalConfig) : LoadsRight d cfg ↔ Loadable d cfg := by
  refine ⟨?_, ?_⟩
  · rintro ⟨-, m, hm, hholds, -, -⟩
    have hfits : cfg.Fits := by
      by_contra hnot
      rw [loadAlgos, readConfig_of_not_fits hnot] at hm
      cases hm
    have hmethods : ∀ lib ∈ libraries d cfg, lib.HasMethods := by
      by_contra hnot
      rw [loadAlgos_of_fits hfits, mapM_loadLib_of_not hnot] at hm
      cases hm
    have hcount := hholds.count
    rw [algoCount_of_loadAlgos hfits hmethods hm, toNat_algoCount_eq_iff] at hcount
    exact ⟨hfits, hmethods, hcount.1, hcount.2⟩
  · intro h
    obtain ⟨m, hm, hholds⟩ := h.holds
    refine ⟨?_, m, hm, hholds, fun s => ?_, ?_⟩
    · rw [loadCalLibs, hm, ok_bind]
      rcases hholds.dump with ⟨log, hlog⟩ | hnull
      · rw [hlog]
        exact fun heq => by cases heq
      · rw [hnull]
        exact fun heq => by cases heq
    · cases s with
      | none => exact fun heq => by cases heq
      | some s => exact hholds.search s none (Nat.zero_add _)
    · exact hholds.dump_ne

/-- A default library that is initialised, says that it has an algorithm, and fails to list it. -/
def listless : Device where
  lp64 := true
  library _ _ := .found
    { number := 1
      methods := some ⟨0, some none⟩
      length_eq := by simp }

/-- Then `dump` reads a slot that nobody has written. -/
theorem listless_dump : ¬ LoadsRight listless .unopened ∧
    loadCalLibs listless .unopened = .error .uninitialised := by
  have hrun : loadAlgos listless .unopened = .ok ⟨some ⟨1, fun _ => none⟩, 1⟩ := rfl
  refine ⟨fun h => ?_, rfl⟩
  obtain ⟨-, m, hm, -, -, hdump⟩ := h
  rw [hrun] at hm
  obtain rfl := Except.ok.inj hm
  exact hdump rfl

end OppoA37.Calibration
