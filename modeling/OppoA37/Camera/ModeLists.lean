import OppoA37.Lib.Block
import OppoA37.Lib.Text

/-!
# The mode lists of `camera_convert_parameters`

The legacy HAL lists its modes as text, separated by commas. Five loops look up each token and
collect the modes in arrays on the stack, which are published then. The loops are of two kinds:

* the loops for antibanding, scenes and effects go on to the next cell if the cell is not zero.
  What an unknown token finds there was never written (`keepMode`);
* the loops for focus and white balance mark the cell first, even if it is behind the array
  (`resetMode`).

And antibanding publishes its whole array, however many modes there are. `modesRight_iff` says for
which texts the published lists are right, whatever is in memory: each list by a condition of its
own.

The parameters for focus and white balance have no default; both are taken to be there.
-/

namespace OppoA37.Camera

/-! ## Tokens -/

/-- What `strtok` with a comma returns until it returns `NULL`. -/
def tokensOf (values : List Char) : List (List Char) := Text.words (· = ',') values

/-- `strcpy` to an array of characters; `none` if it does not fit. -/
def strcpy (size : ℕ) (values : List Char) : Option (List Char) :=
  if values.length < size then some values else none

/-- Tokens and their modes. -/
abbrev ModeTable : Type := List (String × UInt8)

/-- The mode of a token. -/
def modeOf (table : ModeTable) (token : List Char) : Option UInt8 :=
  (table.find? fun row => row.1.toList == token).map Prod.snd

/-- `ANDROID_CONTROL_AE_ANTIBANDING_MODE_*` -/
def antibandingTable : ModeTable := [("off", 0), ("auto", 3), ("50hz", 1), ("60hz", 2)]

/-- `ANDROID_CONTROL_AF_MODE_*` -/
def afTable : ModeTable :=
  [("auto", 1), ("macro", 2), ("continuous-video", 3), ("continuous-picture", 4), ("edof", 5),
    ("manual", 0)]

/-- `ANDROID_CONTROL_AWB_MODE_*` -/
def awbTable : ModeTable :=
  [("auto", 1), ("incandescent", 2), ("fluorescent", 3), ("warm-fluorescent", 4), ("daylight", 5),
    ("cloudy-daylight", 6), ("twilight", 7), ("shade", 8)]

/-- `ANDROID_CONTROL_SCENE_MODE_*` -/
def sceneTable : ModeTable :=
  [("landscape", 4), ("snow", 9), ("sunset", 10), ("steadyphoto", 11), ("party", 14),
    ("candelight", 15), ("night-portrait", 6), ("portrait", 3), ("theatre", 7), ("night", 5),
    ("action", 2), ("beach", 8), ("fireworks", 12), ("sports", 13), ("face-priority", 1),
    ("barcode", 16)]

/-- `ANDROID_CONTROL_EFFECT_MODE_*` -/
def effectTable : ModeTable :=
  [("none", 0), ("mono", 1), ("negative", 2), ("solarize", 3), ("sepia", 4), ("posterize", 5),
    ("whiteboard", 6), ("blackboard", 7), ("aqua", 8)]

/-- What is found in a table is in one of its rows. -/
theorem mem_of_modeOf {table : ModeTable} {token : List Char} {v : UInt8}
    (h : modeOf table token = some v) : ∃ row ∈ table, row.1.toList = token ∧ row.2 = v := by
  obtain ⟨row, hrow, rfl⟩ := Option.map_eq_some_iff.mp h
  have htoken := List.find?_some hrow
  exact ⟨row, List.mem_of_find?_eq_some hrow, beq_iff_eq.mp htoken, rfl⟩

/-! ## The loops -/

/-- An array of modes with its counter. -/
structure Modes where
  cells : Block UInt8
  counter : ℕ

/-- An array with nothing in it but what was in memory. -/
def Modes.empty (size : ℕ) (garbage : ℕ → UInt8) : Modes := ⟨⟨size, garbage⟩, 0⟩

/-- The cells that are published. -/
def Modes.published (m : Modes) : List UInt8 := (List.range m.counter).map m.cells.get

/-- A turn of the loops for antibanding, scenes and effects: some tokens take up a cell even if it
is zero. -/
def keepMode (table : ModeTable) (kept : List String) (m : Modes) (token : List Char) :
    Option Modes :=
  (match modeOf table token with
    | some v => m.cells.write m.counter v
    | none => some m.cells).map fun cells =>
      ⟨cells, if cells.get m.counter ≠ 0 ∨ token ∈ kept.map String.toList then m.counter + 1
        else m.counter⟩

/-- A turn of the loops for focus and white balance, with the mode that an empty list starts with,
and whether unknown tokens are taken for the manual mode. -/
def resetMode (table : ModeTable) (first : UInt8) (manual : Bool) (m : Modes)
    (token : List Char) : Option Modes := do
  let cells ← m.cells.write m.counter 255
  let cells ← match modeOf table token with
    | some v => cells.write m.counter v
    | none => some cells
  if cells.get m.counter = 255 then
    let cells ← if m.counter = 0 then cells.write m.counter first else some cells
    if manual then
      let cells ← cells.write m.counter 0
      return ⟨cells, m.counter + 1⟩
    else return ⟨cells, m.counter⟩
  else return ⟨cells, m.counter + 1⟩

/-- `strstr(wb_values, "manual") && camera_id == 0` -/
def hasManual (cameraId : ℕ) (values : List Char) : Bool :=
  (Text.find "manual".toList values).isSome && cameraId == 0

/-! ## What is published -/

/-- The parameters with the modes of the legacy HAL. -/
structure ModeParams where
  /-- `antibanding-values` -/
  antibandingValues : Option (List Char)
  /-- `focus-mode-values` -/
  focusModeValues : List Char
  /-- `whitebalance-values` -/
  whitebalanceValues : List Char
  /-- `scene-mode-values` -/
  sceneModeValues : Option (List Char)
  /-- `effect-values` -/
  effectValues : Option (List Char)

/-- What is in memory where the arrays are. -/
structure Garbage where
  antibanding : ℕ → UInt8
  af : ℕ → UInt8
  awb : ℕ → UInt8
  scene : ℕ → UInt8
  effect : ℕ → UInt8

/-- The five lists. -/
structure ModeLists where
  /-- `ANDROID_CONTROL_AE_AVAILABLE_ANTIBANDING_MODES` -/
  antibanding : List UInt8
  /-- `ANDROID_CONTROL_AF_AVAILABLE_MODES` -/
  af : List UInt8
  /-- `ANDROID_CONTROL_AWB_AVAILABLE_MODES` -/
  awb : List UInt8
  /-- `ANDROID_CONTROL_AVAILABLE_SCENE_MODES` -/
  scene : List UInt8
  /-- `ANDROID_CONTROL_AVAILABLE_EFFECTS` -/
  effect : List UInt8

/-- `available_antibanding_modes`: all its cells are published. -/
def availableAntibandingModes (garbage : ℕ → UInt8) (values : List Char) : Option (List UInt8) := do
  let abModes ← strcpy 128 values
  let m ← (tokensOf abModes).foldlM (keepMode antibandingTable ["none", "off"]) (.empty 4 garbage)
  return (List.range 4).map m.cells.get

/-- `avail_af_modes` -/
def availAfModes (garbage : ℕ → UInt8) (values : List Char) : Option (List UInt8) := do
  let fmModes ← strcpy 128 values
  let m ← (tokensOf fmModes).foldlM (resetMode afTable 0 false) (.empty 6 garbage)
  return m.published

/-- `available_awb_modes` -/
def availableAwbModes (cameraId : ℕ) (garbage : ℕ → UInt8) (values : List Char) :
    Option (List UInt8) := do
  let wbModes ← strcpy 128 values
  let m ← (tokensOf wbModes).foldlM (resetMode awbTable 1 (hasManual cameraId values))
    (.empty 9 garbage)
  return m.published

/-- `available_scene_modes` -/
def availableSceneModes (garbage : ℕ → UInt8) (values : List Char) : Option (List UInt8) := do
  let sceneModes ← strcpy 256 values
  let m ← (tokensOf sceneModes).foldlM (keepMode sceneTable []) (.empty 16 garbage)
  return m.published

/-- `available_effect_modes` -/
def availableEffectModes (garbage : ℕ → UInt8) (values : List Char) : Option (List UInt8) := do
  let effectModes ← strcpy 256 values
  let m ← (tokensOf effectModes).foldlM (keepMode effectTable ["none", "off"]) (.empty 9 garbage)
  return m.published

/-- The part of `camera_convert_parameters` that publishes modes; `none` if an array is written past
its size. -/
def convertModes (cameraId : ℕ) (garbage : Garbage) (params : ModeParams) : Option ModeLists := do
  let antibanding ← availableAntibandingModes garbage.antibanding
    (params.antibandingValues.getD "auto".toList)
  let af ← availAfModes garbage.af params.focusModeValues
  let awb ← availableAwbModes cameraId garbage.awb params.whitebalanceValues
  let scene ← availableSceneModes garbage.scene (params.sceneModeValues.getD "auto".toList)
  let effect ← availableEffectModes garbage.effect (params.effectValues.getD "none".toList)
  return ⟨antibanding, af, awb, scene, effect⟩

/-! ## What ought to be published -/

/-- The mode of a token for the white balance: the first camera has a manual mode as well. -/
def awbModeOf (cameraId : ℕ) (token : List Char) : Option UInt8 :=
  modeOf awbTable token <|> if hasManual cameraId token then some 0 else none

/-- The modes of the tokens that are known, in order. -/
def recognised (mode : List Char → Option UInt8) (values : List Char) : List UInt8 :=
  (tokensOf values).filterMap mode

/-- The modes of all texts. -/
def ModeParams.recognised (cameraId : ℕ) (params : ModeParams) : ModeLists where
  antibanding := Camera.recognised (modeOf antibandingTable)
    (params.antibandingValues.getD "auto".toList)
  af := Camera.recognised (modeOf afTable) params.focusModeValues
  awb := Camera.recognised (awbModeOf cameraId) params.whitebalanceValues
  scene := Camera.recognised (modeOf sceneTable) (params.sceneModeValues.getD "auto".toList)
  effect := Camera.recognised (modeOf effectTable) (params.effectValues.getD "none".toList)

/-- Whatever is in memory, the lists are the known modes of the texts, and no array is written past
its size. -/
def ModesRight (cameraId : ℕ) (params : ModeParams) : Prop :=
  ∀ garbage, convertModes cameraId garbage params = some (params.recognised cameraId)

/-! ## The next cell -/

namespace Modes

/-- One more mode. -/
def next (m : Modes) (v : UInt8) : Modes :=
  ⟨{ m.cells with get := Function.update m.cells.get m.counter v }, m.counter + 1⟩

variable {m m' : Modes}

@[simp] theorem counter_next (v : UInt8) : (m.next v).counter = m.counter + 1 := rfl

@[simp] theorem size_next (v : UInt8) : (m.next v).cells.size = m.cells.size := rfl

theorem get_next_of_ne (v : UInt8) {k : ℕ} (hk : k ≠ m.counter) :
    (m.next v).cells.get k = m.cells.get k := Function.update_of_ne hk _ _

/-- What is below the counter is published. -/
theorem published_congr (hcounter : m'.counter = m.counter)
    (hget : ∀ k < m.counter, m'.cells.get k = m.cells.get k) : m'.published = m.published := by
  rw [published, hcounter]
  exact List.map_congr_left fun k hk => hget k (List.mem_range.mp hk)

/-- One more mode is published. -/
theorem published_next (v : UInt8) : (m.next v).published = m.published ++ [v] := by
  have hlast : (m.next v).cells.get m.counter = v := Function.update_self ..
  rw [published, counter_next, List.range_succ, List.map_append, List.map_singleton, hlast,
    published]
  congr 1
  exact List.map_congr_left fun k hk =>
    get_next_of_ne v (Nat.ne_of_lt (List.mem_range.mp hk))

@[simp] theorem length_published : m.published.length = m.counter := by simp [published]

end Modes

/-! ## Loops that keep what is not zero -/

section Keep

variable {table : ModeTable} {kept : List String} {m m' : Modes} {token : List Char}
  {tokens : List (List Char)}

/-- All tokens whose mode is zero take up a cell. -/
def KeepsZeros (table : ModeTable) (kept : List String) : Prop :=
  ∀ row ∈ table, row.2 = 0 → row.1 ∈ kept

instance (table : ModeTable) (kept : List String) : Decidable (KeepsZeros table kept) :=
  inferInstanceAs (Decidable (∀ row ∈ table, _))

/-- A known token. -/
theorem keepMode_known (hkept : KeepsZeros table kept) {v : UInt8}
    (hv : modeOf table token = some v) (hlt : m.counter < m.cells.size) :
    keepMode table kept m token = some (m.next v) := by
  have hcell : Function.update m.cells.get m.counter v m.counter ≠ 0 ∨
      token ∈ kept.map String.toList := by
    rw [Function.update_self]
    rcases eq_or_ne v 0 with rfl | hne
    · obtain ⟨row, hrow, rfl, hzero⟩ := mem_of_modeOf hv
      exact Or.inr (List.mem_map_of_mem (hkept row hrow hzero))
    · exact Or.inl hne
  simp only [keepMode, hv, Block.write, if_pos hlt, Option.map_some, if_pos hcell, Modes.next]

/-- A known token behind the array. -/
theorem keepMode_behind {v : UInt8} (hv : modeOf table token = some v)
    (hle : m.cells.size ≤ m.counter) : keepMode table kept m token = none := by
  simp only [keepMode, hv, Block.write, if_neg (not_lt.mpr hle), Option.map_none]

/-- An unknown token writes nothing. -/
theorem keepMode_unknown (hnone : modeOf table token = none) :
    ∃ counter, keepMode table kept m token = some ⟨m.cells, counter⟩ := by
  rw [keepMode, hnone]
  exact ⟨_, rfl⟩

/-- An unknown token takes up a cell that was not zero before. -/
theorem keepMode_garbage (hnone : modeOf table token = none)
    (hgarbage : m.cells.get m.counter ≠ 0) :
    keepMode table kept m token = some ⟨m.cells, m.counter + 1⟩ := by
  simp only [keepMode, hnone, Option.map_some, if_pos (Or.inl hgarbage)]

/-- **Known tokens** for which there is room are published. -/
theorem foldlM_keepMode_known (hkept : KeepsZeros table kept)
    (hall : ∀ t ∈ tokens, (modeOf table t).isSome)
    (hroom : m.counter + tokens.length ≤ m.cells.size) :
    ∃ m', tokens.foldlM (keepMode table kept) m = some m' ∧
      m'.counter = m.counter + tokens.length ∧
      m'.published = m.published ++ tokens.filterMap (modeOf table) := by
  induction tokens generalizing m with
  | nil => exact ⟨m, rfl, rfl, by simp⟩
  | cons t ts ih =>
    obtain ⟨v, hv⟩ := Option.isSome_iff_exists.mp (hall t List.mem_cons_self)
    rw [List.length_cons] at hroom
    obtain ⟨m', hm', hcounter, hpublished⟩ := ih (m := m.next v)
      (fun t ht => hall t (List.mem_cons_of_mem _ ht))
      (by rw [Modes.counter_next, Modes.size_next]; omega)
    refine ⟨m', ?_, ?_, ?_⟩
    · rw [List.foldlM_cons, keepMode_known hkept hv (by omega)]
      exact hm'
    · rw [hcounter, Modes.counter_next, List.length_cons]
      omega
    · rw [hpublished, Modes.published_next, List.filterMap_cons_some hv, List.append_assoc]
      rfl

/-- **Unknown tokens** leave the array alone. -/
theorem foldlM_keepMode_unknown (hall : ∀ t ∈ tokens, modeOf table t = none) :
    ∃ m', tokens.foldlM (keepMode table kept) m = some m' ∧ m'.cells = m.cells := by
  induction tokens generalizing m with
  | nil => exact ⟨m, rfl, rfl⟩
  | cons t ts ih =>
    obtain ⟨counter, hstep⟩ : ∃ counter, keepMode table kept m t = some ⟨m.cells, counter⟩ :=
      keepMode_unknown (hall t List.mem_cons_self)
    obtain ⟨m', hm', hcells⟩ := ih (m := ⟨m.cells, counter⟩)
      fun t ht => hall t (List.mem_cons_of_mem _ ht)
    refine ⟨m', ?_, hcells⟩
    rw [List.foldlM_cons, hstep]
    exact hm'

/-- In memory without a zero every token takes up a cell, and those that are known have to be
inside the array. -/
theorem foldlM_keepMode_garbage (hkept : KeepsZeros table kept)
    (hgarbage : ∀ k, m.counter ≤ k → m.cells.get k ≠ 0)
    (hloop : tokens.foldlM (keepMode table kept) m = some m') :
    m'.counter = m.counter + tokens.length ∧
      ∀ i t, tokens[i]? = some t → (modeOf table t).isSome → m.counter + i < m.cells.size := by
  induction tokens generalizing m with
  | nil =>
    obtain rfl := Option.some.inj hloop
    exact ⟨rfl, fun i t ht => by simp at ht⟩
  | cons t ts ih =>
    rw [List.foldlM_cons] at hloop
    obtain ⟨m₁, hstep, hrest⟩ := Option.bind_eq_some_iff.mp hloop
    -- the first token takes up a cell
    have hfirst : m₁.counter = m.counter + 1 ∧ m₁.cells.size = m.cells.size ∧
        (∀ k, m.counter + 1 ≤ k → m₁.cells.get k ≠ 0) ∧
        ((modeOf table t).isSome → m.counter < m.cells.size) := by
      rcases hv : modeOf table t with _ | v
      · rw [keepMode_garbage hv (hgarbage _ le_rfl)] at hstep
        obtain rfl := Option.some.inj hstep
        exact ⟨rfl, rfl, fun k hk => hgarbage k (by omega), by simp⟩
      · rcases lt_or_ge m.counter m.cells.size with hlt | hge
        · rw [keepMode_known hkept hv hlt] at hstep
          obtain rfl := Option.some.inj hstep
          refine ⟨rfl, rfl, fun k hk => ?_, fun _ => hlt⟩
          rw [Modes.get_next_of_ne v (by omega)]
          exact hgarbage k (by omega)
        · rw [keepMode_behind hv hge] at hstep
          cases hstep
    obtain ⟨hcounter, hsize, hg, hin⟩ := hfirst
    obtain ⟨hlast, hinside⟩ := ih (fun k hk => hg k (hcounter ▸ hk)) hrest
    refine ⟨by rw [hlast, hcounter, List.length_cons]; omega, fun i t' ht' hknown => ?_⟩
    cases i with
    | zero =>
      obtain rfl : t = t' := by simpa using ht'
      exact hin hknown
    | succ i =>
      have hlt := hinside i t' (by simpa using ht') hknown
      omega

end Keep

/-! ## Loops that mark the next cell first -/

section Reset

variable {table : ModeTable} {first : UInt8} {manual : Bool} {m : Modes} {token : List Char}
  {tokens : List (List Char)}

/-- What a token comes to: its mode, or the manual one if unknown tokens are taken for it. -/
def resetModeOf (table : ModeTable) (manual : Bool) (token : List Char) : Option UInt8 :=
  modeOf table token <|> if manual then some 0 else none

/-- No mode looks like the mark. -/
def Unmarked (table : ModeTable) : Prop := ∀ row ∈ table, row.2 ≠ 255

instance (table : ModeTable) : Decidable (Unmarked table) :=
  inferInstanceAs (Decidable (∀ row ∈ table, _))

/-- The mark is written even behind the array. -/
theorem resetMode_behind (hle : m.cells.size ≤ m.counter) :
    resetMode table first manual m token = none := by
  rw [resetMode, Block.write, if_neg (not_lt.mpr hle)]
  rfl

/-- A token that has a mode is the next one. -/
theorem resetMode_some (htable : Unmarked table) (hlt : m.counter < m.cells.size) {v : UInt8}
    (hv : resetModeOf table manual token = some v) :
    resetMode table first manual m token = some (m.next v) := by
  rcases hmode : modeOf table token with _ | v'
  · -- an unknown token that is taken for the manual mode
    cases manual with
    | false => simp [resetModeOf, hmode] at hv
    | true =>
      obtain rfl : 0 = v := by simpa [resetModeOf, hmode] using hv
      by_cases hzero : m.counter = 0
      · have hsize : 0 < m.cells.size := hzero ▸ hlt
        simp [resetMode, hmode, Block.write, hzero, hsize, Modes.next, Function.update_idem]
      · simp [resetMode, hmode, Block.write, hzero, hlt, Modes.next, Function.update_idem]
  · obtain rfl : v' = v := by simpa [resetModeOf, hmode] using hv
    obtain ⟨row, hrow, -, rfl⟩ := mem_of_modeOf hmode
    simp [resetMode, hmode, Block.write, hlt, Modes.next, Function.update_idem, htable row hrow]

/-- A token without a mode changes nothing that is published. -/
theorem resetMode_none (hlt : m.counter < m.cells.size)
    (hv : resetModeOf table manual token = none) :
    ∃ m', resetMode table first manual m token = some m' ∧ m'.cells.size = m.cells.size ∧
      m'.counter = m.counter ∧ m'.published = m.published := by
  have hmode : modeOf table token = none := by
    rcases hmode : modeOf table token with _ | v
    · rfl
    · simp [resetModeOf, hmode] at hv
  have hmanual : manual = false := by
    rcases manual with _ | _
    · rfl
    · simp [resetModeOf, hmode] at hv
  by_cases hzero : m.counter = 0
  · have hsize : 0 < m.cells.size := hzero ▸ hlt
    refine ⟨⟨{ m.cells with get := Function.update m.cells.get m.counter first }, m.counter⟩,
      ?_, rfl, rfl, ?_⟩
    · simp [resetMode, hmode, hmanual, Block.write, hzero, hsize, Function.update_idem]
    · exact Modes.published_congr rfl fun k hk => absurd hk (by omega)
  · refine ⟨⟨{ m.cells with get := Function.update m.cells.get m.counter 255 }, m.counter⟩,
      ?_, rfl, rfl, ?_⟩
    · simp [resetMode, hmode, hmanual, Block.write, hzero, hlt]
    · exact Modes.published_congr rfl fun k hk => Function.update_of_ne (Nat.ne_of_lt hk) _ _

/-- A token for which there is a cell. -/
theorem resetMode_inside (htable : Unmarked table) (hlt : m.counter < m.cells.size)
    (token : List Char) : ∃ m', resetMode table first manual m token = some m' ∧
      m'.cells.size = m.cells.size ∧
      m'.counter = m.counter + (resetModeOf table manual token).toList.length ∧
      m'.published = m.published ++ (resetModeOf table manual token).toList := by
  rcases hv : resetModeOf table manual token with _ | v
  · obtain ⟨m', hm', hsize, hcounter, hpublished⟩ :=
      resetMode_none hlt hv
    exact ⟨m', hm', hsize, hcounter, by simpa using hpublished⟩
  · exact ⟨m.next v, resetMode_some htable hlt hv, rfl, rfl, Modes.published_next v⟩

/-- There is a cell for every token when its turn comes. -/
def HasCells (table : ModeTable) (manual : Bool) (free : ℕ) (tokens : List (List Char)) : Prop :=
  tokens = [] ∨ (tokens.dropLast.filterMap (resetModeOf table manual)).length < free

theorem hasCells_cons {free : ℕ} : HasCells table manual free (token :: tokens) ↔
    0 < free ∧ HasCells table manual (free - (resetModeOf table manual token).toList.length)
      tokens := by
  rcases tokens with _ | ⟨t, ts⟩
  · simp [HasCells]
  · simp only [HasCells, List.dropLast_cons_cons, reduceCtorEq, false_or]
    rcases hv : resetModeOf table manual token with _ | v
    · rw [List.filterMap_cons_none hv]
      simp only [Option.toList_none, List.length_nil, Nat.sub_zero]
      exact ⟨fun h => ⟨by omega, h⟩, fun h => h.2⟩
    · rw [List.filterMap_cons_some hv]
      simp only [Option.toList_some, List.length_cons, List.length_nil]
      omega

/-- **Every token in turn**, if there is a cell for it; otherwise the array is written past its
size. -/
theorem foldlM_resetMode (htable : Unmarked table) {free : ℕ}
    (hfree : m.counter + free = m.cells.size) :
    (HasCells table manual free tokens → ∃ m',
      tokens.foldlM (resetMode table first manual) m = some m' ∧
      m'.published = m.published ++ tokens.filterMap (resetModeOf table manual)) ∧
    (¬ HasCells table manual free tokens →
      tokens.foldlM (resetMode table first manual) m = none) := by
  induction tokens generalizing m free with
  | nil => exact ⟨fun _ => ⟨m, rfl, by simp⟩, fun h => absurd (Or.inl rfl) h⟩
  | cons t ts ih =>
    rw [hasCells_cons, List.foldlM_cons]
    rcases Nat.eq_zero_or_pos free with rfl | hpos
    · rw [resetMode_behind (by omega)]
      exact ⟨fun h => absurd h.1 (lt_irrefl 0), fun _ => rfl⟩
    · obtain ⟨m₁, hstep, hsize, hcounter, hpublished⟩ :
          ∃ m₁, resetMode table first manual m t = some m₁ ∧ m₁.cells.size = m.cells.size ∧
            m₁.counter = m.counter + (resetModeOf table manual t).toList.length ∧
            m₁.published = m.published ++ (resetModeOf table manual t).toList :=
        resetMode_inside htable (by omega) t
      have hle : (resetModeOf table manual t).toList.length ≤ 1 := by
        rcases resetModeOf table manual t with _ | _ <;> simp
      have hfree' : m₁.counter + (free - (resetModeOf table manual t).toList.length) =
          m₁.cells.size := by omega
      obtain ⟨hin, hout⟩ := ih hfree'
      rw [hstep]
      refine ⟨fun h => ?_, fun h => hout fun hcells => h ⟨hpos, hcells⟩⟩
      obtain ⟨m', hm', hlast⟩ := hin h.2
      refine ⟨m', hm', ?_⟩
      rw [hlast, hpublished, List.append_assoc]
      congr 1
      rcases hv : resetModeOf table manual t with _ | v
      · rw [List.filterMap_cons_none hv]
        rfl
      · rw [List.filterMap_cons_some hv]
        rfl

end Reset

/-! ## Which texts are published right -/

/-- There is a cell for every token, and each of them is known. -/
def AllKnown (size : ℕ) (table : ModeTable) (tokens : List (List Char)) : Prop :=
  tokens.length ≤ size ∧ ∀ t ∈ tokens, (modeOf table t).isSome

/-- The first tokens fill the array, and none is known behind them. -/
def FirstKnown (size : ℕ) (table : ModeTable) (tokens : List (List Char)) : Prop :=
  size ≤ tokens.length ∧ (∀ t ∈ tokens.take size, (modeOf table t).isSome) ∧
    ∀ t ∈ tokens.drop size, modeOf table t = none

section Lists

variable {table : ModeTable} {kept : List String} {size : ℕ} {tokens : List (List Char)}

/-- A list of which as much is published as was filled. -/
theorem keep_iff (hkept : KeepsZeros table kept) :
    (∀ garbage, (do
      let m ← tokens.foldlM (keepMode table kept) (.empty size garbage)
      return m.published) = some (tokens.filterMap (modeOf table))) ↔
      AllKnown size table tokens := by
  have hone : (1 : UInt8) ≠ 0 := by decide
  constructor
  · intro hall
    obtain ⟨m, hloop, hlast⟩ := Option.bind_eq_some_iff.mp (hall fun _ => 1)
    have hpublished := Option.some.inj hlast
    obtain ⟨hcounter, hinside⟩ := foldlM_keepMode_garbage hkept (fun _ _ => hone) hloop
    -- as many modes as tokens
    have hlength : (tokens.filterMap (modeOf table)).length = tokens.length := by
      rw [← hpublished, Modes.length_published, hcounter]
      exact Nat.zero_add _
    have hknown := List.filterMap_length_eq_length.mp hlength
    refine ⟨?_, hknown⟩
    by_contra hlong
    have hlt : size < tokens.length := not_le.mp hlong
    have hlast := hinside size tokens[size] (List.getElem?_eq_getElem hlt)
      (hknown _ (List.getElem_mem hlt))
    exact absurd hlast (by simp [Modes.empty])
  · rintro ⟨hlength, hknown⟩ garbage
    obtain ⟨m, hloop, -, hpublished⟩ := foldlM_keepMode_known (m := .empty size garbage) hkept
      hknown (by simpa [Modes.empty] using hlength)
    rw [hloop]
    simpa [Modes.empty, Modes.published] using hpublished

/-- A list that is published whole. -/
theorem keep_whole_iff (hkept : KeepsZeros table kept) :
    (∀ garbage, (do
      let m ← tokens.foldlM (keepMode table kept) (.empty size garbage)
      return (List.range size).map m.cells.get) = some (tokens.filterMap (modeOf table))) ↔
      FirstKnown size table tokens := by
  have hsplit : tokens.filterMap (modeOf table) = (tokens.take size).filterMap (modeOf table) ++
      (tokens.drop size).filterMap (modeOf table) := by
    rw [← List.filterMap_append, List.take_append_drop]
  have hone : (1 : UInt8) ≠ 0 := by decide
  constructor
  · intro hall
    obtain ⟨m, hloop, hwhole⟩ := Option.bind_eq_some_iff.mp (hall fun _ => 1)
    have hpublished := Option.some.inj hwhole
    obtain ⟨-, hinside⟩ := foldlM_keepMode_garbage hkept (fun _ _ => hone) hloop
    -- known tokens are inside the array
    have hrest : ∀ t ∈ tokens.drop size, modeOf table t = none := by
      intro t ht
      obtain ⟨i, hi⟩ := List.getElem?_of_mem ht
      rw [List.getElem?_drop] at hi
      by_contra hknown
      have hlt := hinside _ t hi (Option.isSome_iff_ne_none.mpr hknown)
      exact absurd hlt (by simp [Modes.empty])
    have hnone : (tokens.drop size).filterMap (modeOf table) = [] :=
      List.filterMap_eq_nil_iff.mpr hrest
    have hlength : ((tokens.take size).filterMap (modeOf table)).length = size := by
      rw [hsplit, hnone, List.append_nil] at hpublished
      rw [← hpublished, List.length_map, List.length_range]
    have hle := List.length_filterMap_le (modeOf table) (tokens.take size)
    rw [hlength, List.length_take] at hle
    refine ⟨by omega, ?_, hrest⟩
    refine List.filterMap_length_eq_length.mp ?_
    rw [hlength, List.length_take]
    omega
  · rintro ⟨hlength, hknown, hrest⟩ garbage
    have htake : (tokens.take size).length = size := by
      rw [List.length_take]
      omega
    obtain ⟨m, hfirst, hcounter, hpublished⟩ :=
      foldlM_keepMode_known (m := .empty size garbage) hkept hknown (by simp [Modes.empty])
    obtain ⟨m', hlast, hcells⟩ :
        ∃ m', (tokens.drop size).foldlM (keepMode table kept) m = some m' ∧ m'.cells = m.cells :=
      foldlM_keepMode_unknown hrest
    have hloop : tokens.foldlM (keepMode table kept) (.empty size garbage) = some m' := by
      rw [← List.take_append_drop size tokens, List.foldlM_append, hfirst]
      exact hlast
    have hnone : (tokens.drop size).filterMap (modeOf table) = [] :=
      List.filterMap_eq_nil_iff.mpr hrest
    have hcount : m.counter = size := by
      rw [hcounter, htake]
      exact Nat.zero_add _
    rw [hloop, hsplit, hnone, List.append_nil]
    rw [Modes.published, hcount] at hpublished
    simpa [hcells, Modes.empty, Modes.published] using hpublished

/-- There are fewer modes than cells before the last token. -/
def RoomForLast (size : ℕ) (mode : List Char → Option UInt8) (tokens : List (List Char)) : Prop :=
  (tokens.dropLast.filterMap mode).length < size

/-- A list whose cells are marked first, whatever is in memory. -/
theorem reset_iff {first : UInt8} {manual : Bool} {modes : List UInt8} (htable : Unmarked table)
    (hsize : 0 < size) (garbage : ℕ → UInt8) :
    (do
      let m ← tokens.foldlM (resetMode table first manual) (.empty size garbage)
      return m.published) = some modes ↔
      RoomForLast size (resetModeOf table manual) tokens ∧
        tokens.filterMap (resetModeOf table manual) = modes := by
  have hfree : (Modes.empty size garbage).counter + size =
      (Modes.empty size garbage).cells.size := Nat.zero_add _
  have hcells : HasCells table manual size tokens ↔
      RoomForLast size (resetModeOf table manual) tokens := by
    refine or_iff_right_of_imp ?_
    rintro rfl
    exact hsize
  rw [← hcells]
  by_cases hroom : HasCells table manual size tokens
  · obtain ⟨m, hloop, hpublished⟩ :
        ∃ m, tokens.foldlM (resetMode table first manual) (.empty size garbage) = some m ∧
          m.published = (Modes.empty size garbage).published ++
            tokens.filterMap (resetModeOf table manual) := (foldlM_resetMode htable hfree).1 hroom
    have hmodes : m.published = tokens.filterMap (resetModeOf table manual) := hpublished
    rw [hloop, ← hmodes]
    exact Option.some_inj.trans (and_iff_right hroom).symm
  · rw [(foldlM_resetMode htable hfree).2 hroom]
    constructor
    · intro h
      cases h
    · rintro ⟨h, -⟩
      exact absurd h hroom

end Lists

/-- What fits is copied as it is. -/
theorem strcpy_bind_iff {α : Type} {size : ℕ} {values : List Char} {f : List Char → Option α}
    {a : α} : (strcpy size values >>= f) = some a ↔ values.length < size ∧ f values = some a := by
  rw [strcpy]
  split <;> simp_all

section Texts

variable {cameraId : ℕ} {values : List Char}

/-- **Antibanding**: the first four tokens are known and no other is. -/
theorem antibanding_iff :
    (∀ garbage, availableAntibandingModes garbage values =
      some (recognised (modeOf antibandingTable) values)) ↔
      values.length < 128 ∧ FirstKnown 4 antibandingTable (tokensOf values) := by
  have hkept : KeepsZeros antibandingTable ["none", "off"] := by decide
  simp only [availableAntibandingModes, strcpy_bind_iff, forall_and_left]
  exact and_congr_right fun _ => keep_whole_iff hkept

/-- **Scenes**: all tokens are known, and there are not too many. -/
theorem scene_iff :
    (∀ garbage, availableSceneModes garbage values =
      some (recognised (modeOf sceneTable) values)) ↔
      values.length < 256 ∧ AllKnown 16 sceneTable (tokensOf values) := by
  have hkept : KeepsZeros sceneTable [] := by decide
  simp only [availableSceneModes, strcpy_bind_iff, forall_and_left]
  exact and_congr_right fun _ => keep_iff hkept

/-- **Effects**: all tokens are known, and there are not too many. -/
theorem effect_iff :
    (∀ garbage, availableEffectModes garbage values =
      some (recognised (modeOf effectTable) values)) ↔
      values.length < 256 ∧ AllKnown 9 effectTable (tokensOf values) := by
  have hkept : KeepsZeros effectTable ["none", "off"] := by decide
  simp only [availableEffectModes, strcpy_bind_iff, forall_and_left]
  exact and_congr_right fun _ => keep_iff hkept

/-- **Focus**: there is a cell for every token. -/
theorem af_iff :
    (∀ garbage, availAfModes garbage values = some (recognised (modeOf afTable) values)) ↔
      values.length < 128 ∧ RoomForLast 6 (modeOf afTable) (tokensOf values) := by
  have htable : Unmarked afTable := by decide
  have hmode : resetModeOf afTable false = modeOf afTable := by
    funext token
    simp [resetModeOf]
  simp only [availAfModes, strcpy_bind_iff, forall_and_left]
  refine and_congr_right fun _ => (forall_congr' (reset_iff htable (by decide))).trans ?_
  rw [hmode, forall_const]
  exact and_iff_left rfl

/-- The manual mode is a part of the text. -/
theorem hasManual_of_mem {token : List Char} (htoken : token ∈ tokensOf values)
    (hmanual : hasManual cameraId token = true) : hasManual cameraId values = true := by
  simp only [hasManual, Bool.and_eq_true, Option.isSome_iff_ne_none, ne_eq, Text.find_eq_none,
    not_not] at hmanual ⊢
  exact ⟨hmanual.1.trans (Text.infix_of_mem_words htoken), hmanual.2⟩

/-- A token that is known comes to its mode. -/
theorem resetModeOf_of_awbModeOf {token : List Char} (htoken : token ∈ tokensOf values)
    (hknown : hasManual cameraId values = true → (awbModeOf cameraId token).isSome) :
    resetModeOf awbTable (hasManual cameraId values) token = awbModeOf cameraId token := by
  rcases hmode : modeOf awbTable token with _ | v
  · rcases htext : hasManual cameraId values with _ | _
    · have hno : ¬ hasManual cameraId token = true := by
        intro hmanual
        rw [hasManual_of_mem htoken hmanual] at htext
        cases htext
      simp [resetModeOf, awbModeOf, hmode, hno]
    · have hmanual : hasManual cameraId token = true := by
        simpa [awbModeOf, hmode] using hknown htext
      simp [resetModeOf, awbModeOf, hmode, hmanual]
  · simp [resetModeOf, awbModeOf, hmode]

/-- **White balance**: there is a cell for every token, and if the text has the manual mode, all
tokens are known. -/
theorem awb_iff :
    (∀ garbage, availableAwbModes cameraId garbage values =
      some (recognised (awbModeOf cameraId) values)) ↔
      values.length < 128 ∧ RoomForLast 9 (awbModeOf cameraId) (tokensOf values) ∧
        (hasManual cameraId values = true →
          ∀ token ∈ tokensOf values, (awbModeOf cameraId token).isSome) := by
  have htable : Unmarked awbTable := by decide
  simp only [availableAwbModes, strcpy_bind_iff, forall_and_left]
  refine and_congr_right fun _ => (forall_congr' (reset_iff htable (by decide))).trans ?_
  rw [forall_const, recognised]
  -- the lists are equal if all tokens are known
  have hequal : (tokensOf values).filterMap (resetModeOf awbTable (hasManual cameraId values)) =
      (tokensOf values).filterMap (awbModeOf cameraId) ↔ (hasManual cameraId values = true →
        ∀ token ∈ tokensOf values, (awbModeOf cameraId token).isSome) := by
    constructor
    · intro hlists hmanual
      apply List.filterMap_length_eq_length.mp
      rw [← hlists]
      apply List.filterMap_length_eq_length.mpr
      intro token _
      rw [hmanual]
      rcases hmode : modeOf awbTable token with _ | v <;> simp [resetModeOf, hmode]
    · intro hknown
      apply List.filterMap_congr
      intro token htoken
      exact resetModeOf_of_awbModeOf htoken fun hmanual => hknown hmanual token htoken
  rw [hequal]
  refine and_congr_left fun hknown => ?_
  rw [RoomForLast, RoomForLast]
  have hbefore : (tokensOf values).dropLast.filterMap
      (resetModeOf awbTable (hasManual cameraId values)) =
      (tokensOf values).dropLast.filterMap (awbModeOf cameraId) := by
    apply List.filterMap_congr
    intro token hlast
    have htoken := List.mem_of_mem_dropLast hlast
    exact resetModeOf_of_awbModeOf htoken fun hmanual => hknown hmanual token htoken
  rw [hbefore]

end Texts

/-- The conditions of the five lists. -/
structure TextsRight (cameraId : ℕ) (params : ModeParams) : Prop where
  antibanding : (params.antibandingValues.getD "auto".toList).length < 128 ∧
    FirstKnown 4 antibandingTable (tokensOf (params.antibandingValues.getD "auto".toList))
  af : params.focusModeValues.length < 128 ∧
    RoomForLast 6 (modeOf afTable) (tokensOf params.focusModeValues)
  awb : params.whitebalanceValues.length < 128 ∧
    RoomForLast 9 (awbModeOf cameraId) (tokensOf params.whitebalanceValues) ∧
    (hasManual cameraId params.whitebalanceValues = true →
      ∀ token ∈ tokensOf params.whitebalanceValues, (awbModeOf cameraId token).isSome)
  scene : (params.sceneModeValues.getD "auto".toList).length < 256 ∧
    AllKnown 16 sceneTable (tokensOf (params.sceneModeValues.getD "auto".toList))
  effect : (params.effectValues.getD "none".toList).length < 256 ∧
    AllKnown 9 effectTable (tokensOf (params.effectValues.getD "none".toList))

/-- The lists are published if each of them is. -/
theorem convertModes_eq_some_iff {cameraId : ℕ} {garbage : Garbage} {params : ModeParams}
    {lists : ModeLists} : convertModes cameraId garbage params = some lists ↔
      availableAntibandingModes garbage.antibanding
          (params.antibandingValues.getD "auto".toList) = some lists.antibanding ∧
        availAfModes garbage.af params.focusModeValues = some lists.af ∧
        availableAwbModes cameraId garbage.awb params.whitebalanceValues = some lists.awb ∧
        availableSceneModes garbage.scene (params.sceneModeValues.getD "auto".toList) =
          some lists.scene ∧
        availableEffectModes garbage.effect (params.effectValues.getD "none".toList) =
          some lists.effect := by
  rw [convertModes]
  constructor
  · intro h
    obtain ⟨antibanding, h₁, h⟩ := Option.bind_eq_some_iff.mp h
    obtain ⟨af, h₂, h⟩ := Option.bind_eq_some_iff.mp h
    obtain ⟨awb, h₃, h⟩ := Option.bind_eq_some_iff.mp h
    obtain ⟨scene, h₄, h⟩ := Option.bind_eq_some_iff.mp h
    obtain ⟨effect, h₅, h⟩ := Option.bind_eq_some_iff.mp h
    obtain rfl := Option.some.inj h
    exact ⟨h₁, h₂, h₃, h₄, h₅⟩
  · rintro ⟨h₁, h₂, h₃, h₄, h₅⟩
    rw [h₁, h₂, h₃, h₄, h₅]
    rfl

/-- **The published lists are right** if and only if the texts meet the conditions. -/
theorem modesRight_iff (cameraId : ℕ) (params : ModeParams) :
    ModesRight cameraId params ↔ TextsRight cameraId params := by
  constructor
  · intro hright
    -- memory in which all arrays find the same
    have hlists : ∀ g : ℕ → UInt8, _ := fun g =>
      convertModes_eq_some_iff.mp (hright ⟨g, g, g, g, g⟩)
    exact ⟨antibanding_iff.mp fun g => (hlists g).1, af_iff.mp fun g => (hlists g).2.1,
      awb_iff.mp fun g => (hlists g).2.2.1, scene_iff.mp fun g => (hlists g).2.2.2.1,
      effect_iff.mp fun g => (hlists g).2.2.2.2⟩
  · intro h garbage
    apply convertModes_eq_some_iff.mpr
    exact ⟨antibanding_iff.mpr h.antibanding _, af_iff.mpr h.af _, awb_iff.mpr h.awb _,
      scene_iff.mpr h.scene _, effect_iff.mpr h.effect _⟩

/-- Five modes for antibanding are one too many for the array. -/
theorem not_modesRight_five_antibanding : ¬ ModesRight 0
    ⟨some "off,auto,50hz,60hz,auto".toList, "auto".toList, "auto".toList, some "night".toList,
      some "none".toList⟩ := by
  intro hright
  have hnone : convertModes 0
      ⟨fun _ => 0, fun _ => 0, fun _ => 0, fun _ => 0, fun _ => 0⟩
      ⟨some "off,auto,50hz,60hz,auto".toList, "auto".toList, "auto".toList,
        some "night".toList, some "none".toList⟩ = none := by
    rfl
  rw [hright] at hnone
  cases hnone

end OppoA37.Camera
