import OppoA37.Lib.Text

/-!
# `fillCpuUsages`

The usage of the processors comes from `/proc/stat`, where each processor that is online has a
line with its counters, and whether one is online from a file of its own. The result has a place
for every processor there is; the places of those that are not listed stay empty.

The numbers are read by `std::stoi`, which throws when one is too large for an `int`. So the result
holds what is listed only while the counters are small: `usages_iff` says when.
-/

namespace OppoA37.Thermal

open Text

/-- A `CpuUsage`. -/
structure CpuUsage where
  /-- `name` -/
  name : List Char
  /-- `active` -/
  active : ℕ
  /-- `total` -/
  total : ℕ
  /-- `isOnline` -/
  isOnline : Bool
  deriving DecidableEq, Repr

/-- A `CpuUsage` that has not been assigned. -/
def CpuUsage.empty : CpuUsage := ⟨[], 0, 0, false⟩

/-- What makes the call end without a result. -/
inductive CpuFault where
  /-- `std::stoi` finds no number -/
  | invalidArgument
  /-- `std::stoi` finds a number that is no `int` -/
  | outOfRange
  /-- a line has too few words -/
  | outOfBounds
  deriving DecidableEq, Repr

/-- `std::stoi` -/
def stoi (str : List Char) : Except CpuFault ℤ :=
  match scanInt str with
  | none => .error .invalidArgument
  | some n => if -2 ^ 31 ≤ n ∧ n < 2 ^ 31 then .ok n else .error .outOfRange

/-- An `int` in a `uint64_t`. -/
def toUInt64 (n : ℤ) : ℕ := (n % 2 ^ 64).toNat

/-- The number in a word, in a `uint64_t`. -/
def wordAt (words : List (List Char)) (i : ℕ) : Except CpuFault ℕ :=
  match words[i]? with
  | none => .error .outOfBounds
  | some word => do
    let n ← stoi word
    return toUInt64 n

/-- `cpu` -/
def cpuPrefix : List Char := "cpu".toList

/-- The line is that of a processor. -/
def isCpuLine (line : List Char) : Bool :=
  find cpuPrefix line = some 0 && (line.getD 3 NUL).isDigit

/-- `cpu_online_path` -/
def cpuOnlinePath (cpuName : List Char) : List Char :=
  "/sys/devices/system/cpu/".toList ++ cpuName ++ "/online".toList

/-- The loop over the lines of `/proc/stat`; `readFile` is `ReadFileToString`. -/
def assignUsages (kMaxCpus : ℕ) (readFile : List Char → Option (List Char)) :
    List (List Char) → List CpuUsage → Except CpuFault (List CpuUsage)
  | [], cpuUsages => .ok cpuUsages
  | line :: lines, cpuUsages =>
    if isCpuLine line then do
      let words := line.splitOn ' '
      let cpuName := words.headD []
      let cpuNum ← stoi (cpuName.drop 3)
      if toUInt64 cpuNum < kMaxCpus then
        let user ← wordAt words 1
        let nice ← wordAt words 2
        let system ← wordAt words 3
        let idle ← wordAt words 4
        match readFile (cpuOnlinePath cpuName) with
        | none => .ok cpuUsages
        | some isOnline =>
          assignUsages kMaxCpus readFile lines (cpuUsages.set (toUInt64 cpuNum)
            { name := cpuName
              active := (user + nice + system) % 2 ^ 64
              total := (user + nice + system + idle) % 2 ^ 64
              isOnline := trim isOnline = "1".toList })
      else .ok cpuUsages
    else assignUsages kMaxCpus readFile lines cpuUsages

/-- `parseCpuUsagesFileAndAssignUsages`; `data` is what `/proc/stat` holds, if it can be read. -/
def parseCpuUsagesFileAndAssignUsages (kMaxCpus : ℕ) (readFile : List Char → Option (List Char))
    (data : Option (List Char)) (cpuUsages : List CpuUsage) : Except CpuFault (List CpuUsage) :=
  match data with
  | none => .ok cpuUsages
  | some data => assignUsages kMaxCpus readFile (getLines data) cpuUsages

/-- `fillCpuUsages` -/
def fillCpuUsages (kMaxCpus : ℕ) (readFile : List Char → Option (List Char))
    (data : Option (List Char)) : Except CpuFault (List CpuUsage) :=
  parseCpuUsagesFileAndAssignUsages kMaxCpus readFile data (List.replicate kMaxCpus .empty)

/-! ## What is listed -/

/-- A processor as `/proc/stat` lists it. -/
structure ListedCpu where
  /-- its name -/
  name : List Char
  /-- its number -/
  num : ℕ
  /-- `user` -/
  user : ℕ
  /-- `nice` -/
  nice : ℕ
  /-- `system` -/
  system : ℕ
  /-- `idle` -/
  idle : ℕ

/-- A line lists a processor: the name with the number in it, and the counters. -/
def Lists (line : List Char) (cpu : ListedCpu) : Prop :=
  ∃ digits user nice system idle rest,
    line.splitOn ' ' = (cpuPrefix ++ digits) :: user :: nice :: system :: idle :: rest ∧
      cpu.name = cpuPrefix ++ digits ∧ IsDecimal digits cpu.num ∧ IsDecimal user cpu.user ∧
      IsDecimal nice cpu.nice ∧ IsDecimal system cpu.system ∧ IsDecimal idle cpu.idle

/-- The usage of a processor that is listed. -/
structure UsageOf (readFile : List Char → Option (List Char)) (cpu : ListedCpu)
    (usage : CpuUsage) : Prop where
  /-- `name` -/
  name : usage.name = cpu.name
  /-- `active` -/
  active : usage.active = cpu.user + cpu.nice + cpu.system
  /-- `total` -/
  total : usage.total = usage.active + cpu.idle
  /-- `isOnline` -/
  isOnline : ∃ content, readFile (cpuOnlinePath cpu.name) = some content ∧
    (usage.isOnline = true ↔ trim content = "1".toList)

/-- A processor that is listed can be handled: there is a place for it, all its numbers are an
`int`, and its own file can be read. -/
structure Handled (kMaxCpus : ℕ) (readFile : List Char → Option (List Char))
    (cpu : ListedCpu) : Prop where
  /-- `kMaxCpus` -/
  lt : cpu.num < kMaxCpus
  /-- the number fits -/
  num : cpu.num < 2 ^ 31
  /-- `user` fits -/
  user : cpu.user < 2 ^ 31
  /-- `nice` fits -/
  nice : cpu.nice < 2 ^ 31
  /-- `system` fits -/
  system : cpu.system < 2 ^ 31
  /-- `idle` fits -/
  idle : cpu.idle < 2 ^ 31
  /-- the file of the processor -/
  online : ∃ content, readFile (cpuOnlinePath cpu.name) = some content

/-! ## A line -/

variable {kMaxCpus : ℕ} {readFile : List Char → Option (List Char)} {line : List Char}
  {lines : List (List Char)} {cpu : ListedCpu} {cpus : List ListedCpu}
  {cpuUsages : List CpuUsage}

/-- What a processor that is handled is assigned. -/
def ListedCpu.usage (readFile : List Char → Option (List Char)) (cpu : ListedCpu) : CpuUsage where
  name := cpu.name
  active := cpu.user + cpu.nice + cpu.system
  total := cpu.user + cpu.nice + cpu.system + cpu.idle
  isOnline := trim ((readFile (cpuOnlinePath cpu.name)).getD []) = "1".toList

theorem stoi_decimal {digits : List Char} {n : ℕ} (h : IsDecimal digits n) :
    stoi digits = if n < 2 ^ 31 then .ok (n : ℤ) else .error .outOfRange := by
  rw [stoi, h.scanInt]
  refine ite_congr (propext ?_) (fun _ => rfl) (fun _ => rfl)
  omega

theorem toUInt64_natCast {n : ℕ} (h : n < 2 ^ 31) : toUInt64 n = n := by
  rw [toUInt64]
  omega

/-- A number as far as an `int` can hold it. -/
def readNat (n : ℕ) : Except CpuFault ℕ := if n < 2 ^ 31 then .ok n else .error .outOfRange

theorem wordAt_decimal {words : List (List Char)} {i : ℕ} {digits : List Char} {n : ℕ}
    (hword : words[i]? = some digits) (h : IsDecimal digits n) : wordAt words i = readNat n := by
  rw [wordAt, hword]
  show (stoi digits >>= fun n => pure (toUInt64 n)) = _
  rw [stoi_decimal h, readNat]
  by_cases hlt : n < 2 ^ 31
  · rw [if_pos hlt, if_pos hlt]
    exact congrArg Except.ok (toUInt64_natCast hlt)
  · rw [if_neg hlt, if_neg hlt]
    rfl

/-- What is read from the line of a processor. -/
structure ReadAs (words : List (List Char)) (cpu : ListedCpu) : Prop where
  /-- `cpu_name` -/
  name : words.headD [] = cpu.name
  /-- `cpu_num` -/
  num : stoi (cpu.name.drop 3) = if cpu.num < 2 ^ 31 then .ok (cpu.num : ℤ) else .error .outOfRange
  /-- `user` -/
  user : wordAt words 1 = readNat cpu.user
  /-- `nice` -/
  nice : wordAt words 2 = readNat cpu.nice
  /-- `system` -/
  system : wordAt words 3 = readNat cpu.system
  /-- `idle` -/
  idle : wordAt words 4 = readNat cpu.idle

/-- A line is read as what it lists. -/
theorem Lists.readAs (h : Lists line cpu) : ReadAs (line.splitOn ' ') cpu := by
  obtain ⟨digits, user, nice, system, idle, rest, hwords, hname, hnum, huser, hnice, hsystem,
    hidle⟩ := h
  rw [hwords]
  exact {
    name := hname.symm
    num := hname ▸ stoi_decimal hnum
    user := wordAt_decimal rfl huser
    nice := wordAt_decimal rfl hnice
    system := wordAt_decimal rfl hsystem
    idle := wordAt_decimal rfl hidle }

/-- A number is read. -/
theorem ok_bind {ε α β : Type} (a : α) (f : α → Except ε β) : Except.ok a >>= f = f a := rfl

/-- A processor that is handled is assigned its usage. -/
theorem assignUsages_handled (hcpu : isCpuLine line = true) (hlists : Lists line cpu)
    (h : Handled kMaxCpus readFile cpu) :
    assignUsages kMaxCpus readFile (line :: lines) cpuUsages =
      assignUsages kMaxCpus readFile lines (cpuUsages.set cpu.num (cpu.usage readFile)) := by
  have hread := hlists.readAs
  obtain ⟨content, hcontent⟩ := h.online
  have huser := h.user
  have hnice := h.nice
  have hsystem := h.system
  have hidle := h.idle
  rw [assignUsages, if_pos hcpu]
  simp only [hread.name, hread.num, hread.user, hread.nice, hread.system, hread.idle, readNat,
    if_pos h.num, if_pos h.lt, if_pos huser, if_pos hnice, if_pos hsystem, if_pos hidle, ok_bind,
    toUInt64_natCast h.num, hcontent]
  rw [ListedCpu.usage, hcontent, Nat.mod_eq_of_lt (by omega), Nat.mod_eq_of_lt (by omega)]
  rfl

/-- One that is not ends the loop, or the call. -/
theorem assignUsages_not_handled (hcpu : isCpuLine line = true) (hlists : Lists line cpu)
    (h : ¬ Handled kMaxCpus readFile cpu) :
    (∃ e, assignUsages kMaxCpus readFile (line :: lines) cpuUsages = .error e) ∨
      assignUsages kMaxCpus readFile (line :: lines) cpuUsages = .ok cpuUsages := by
  have hread := hlists.readAs
  rw [assignUsages, if_pos hcpu]
  simp only [hread.name, hread.num, hread.user, hread.nice, hread.system, hread.idle, readNat]
  by_cases hnum : cpu.num < 2 ^ 31
  swap
  · rw [if_neg hnum]
    exact Or.inl ⟨_, rfl⟩
  simp only [if_pos hnum, ok_bind, toUInt64_natCast hnum]
  by_cases hlt : cpu.num < kMaxCpus
  swap
  · rw [if_neg hlt]
    exact Or.inr rfl
  rw [if_pos hlt]
  -- the counters in turn, then the file
  by_cases huser : cpu.user < 2 ^ 31
  swap
  · rw [if_neg huser]
    exact Or.inl ⟨_, rfl⟩
  by_cases hnice : cpu.nice < 2 ^ 31
  swap
  · rw [if_pos huser, if_neg hnice]
    exact Or.inl ⟨_, rfl⟩
  by_cases hsystem : cpu.system < 2 ^ 31
  swap
  · rw [if_pos huser, if_pos hnice, if_neg hsystem]
    exact Or.inl ⟨_, rfl⟩
  by_cases hidle : cpu.idle < 2 ^ 31
  swap
  · rw [if_pos huser, if_pos hnice, if_pos hsystem, if_neg hidle]
    exact Or.inl ⟨_, rfl⟩
  have hnone : readFile (cpuOnlinePath cpu.name) = none := by
    rw [← Option.not_isSome_iff_eq_none, Option.isSome_iff_exists]
    exact fun honline => h ⟨hlt, hnum, huser, hnice, hsystem, hidle, honline⟩
  rw [if_pos huser, if_pos hnice, if_pos hsystem, if_pos hidle]
  simp only [ok_bind, hnone]
  exact Or.inr trivial

/-! ## All lines -/

/-- The usages that are assigned. -/
def assigned (cpuUsages : List CpuUsage) : List CpuUsage := cpuUsages.filter (·.name ≠ [])

/-- What the processors that are handled are assigned. -/
def assignAll (readFile : List Char → Option (List Char)) (cpus : List ListedCpu)
    (cpuUsages : List CpuUsage) : List CpuUsage :=
  cpus.foldl (fun usages cpu => usages.set cpu.num (cpu.usage readFile)) cpuUsages

/-- The loop assigns what is listed up to the first processor that is not handled; at that one it
stops, or throws. -/
theorem assignUsages_spec (hlists : List.Forall₂ Lists (lines.filter isCpuLine) cpus) :
    (∃ e, assignUsages kMaxCpus readFile lines cpuUsages = .error e) ∧
        (¬ ∀ cpu ∈ cpus, Handled kMaxCpus readFile cpu) ∨
      ∃ done rest, cpus = done ++ rest ∧
        assignUsages kMaxCpus readFile lines cpuUsages = .ok (assignAll readFile done cpuUsages) ∧
        (∀ cpu ∈ done, Handled kMaxCpus readFile cpu) ∧
        ∀ cpu ∈ rest.head?, ¬ Handled kMaxCpus readFile cpu := by
  induction lines generalizing cpus cpuUsages with
  | nil =>
    cases hlists
    exact Or.inr ⟨[], [], rfl, rfl, List.forall_mem_nil _, fun cpu h => by cases h⟩
  | cons line lines ih =>
    by_cases hcpu : isCpuLine line = true
    · rw [List.filter_cons_of_pos hcpu] at hlists
      obtain ⟨cpu, cpus, hline, hlines, rfl⟩ := List.forall₂_cons_left_iff.mp hlists
      by_cases hhandled : Handled kMaxCpus readFile cpu
      · rw [assignUsages_handled hcpu hline hhandled]
        rcases ih hlines with ⟨herror, hnot⟩ | ⟨done, rest, rfl, hok, hdone, hrest⟩
        · exact Or.inl ⟨herror, fun h => hnot (List.forall_mem_cons.mp h).2⟩
        · exact Or.inr ⟨cpu :: done, rest, rfl, hok, List.forall_mem_cons.mpr ⟨hhandled, hdone⟩,
            hrest⟩
      · rcases assignUsages_not_handled hcpu hline hhandled with herror | hok
        · exact Or.inl ⟨herror, fun h => hhandled (h cpu List.mem_cons_self)⟩
        · refine Or.inr ⟨[], cpu :: cpus, rfl, hok, List.forall_mem_nil _, ?_⟩
          intro cpu' h
          cases h
          exact hhandled
    · rw [List.filter_cons_of_neg hcpu] at hlists
      rw [assignUsages, if_neg hcpu]
      exact ih hlists

/-- The number in a name. -/
def numOf (name : List Char) : ℕ := Nat.ofDigitChars 10 (name.drop 3) 0

/-- Every usage is in the place of its number. -/
def Placed (cpuUsages : List CpuUsage) : Prop :=
  ∀ (i : ℕ) (usage : CpuUsage), cpuUsages[i]? = some usage → usage.name ≠ [] →
    numOf usage.name = i

theorem Lists.numOf_eq (h : Lists line cpu) : numOf cpu.name = cpu.num := by
  obtain ⟨digits, user, nice, system, idle, rest, -, hname, ⟨-, -, hnum⟩, -⟩ := h
  rw [numOf, hname]
  exact hnum

theorem Lists.name_ne (h : Lists line cpu) : cpu.name ≠ [] := by
  obtain ⟨digits, user, nice, system, idle, rest, -, hname, -⟩ := h
  rw [hname]
  exact List.append_ne_nil_of_left_ne_nil (by decide) _

theorem Placed.assignAll (hplaced : Placed cpuUsages)
    (hnums : ∀ cpu ∈ cpus, numOf cpu.name = cpu.num) :
    Placed (assignAll readFile cpus cpuUsages) := by
  induction cpus generalizing cpuUsages with
  | nil => exact hplaced
  | cons cpu cpus ih =>
    obtain ⟨hcpu, hcpus⟩ := List.forall_mem_cons.mp hnums
    refine ih ?_ hcpus
    intro i usage hget hne
    rw [List.getElem?_set] at hget
    split_ifs at hget with hi hlt
    · obtain rfl := Option.some.inj hget
      exact hcpu.trans hi
    · exact hplaced i usage hget hne

/-- So the usages that are assigned come in the order of their numbers. -/
theorem Placed.sorted (hplaced : Placed cpuUsages) :
    (assigned cpuUsages).Pairwise fun x y => numOf x.name < numOf y.name := by
  rw [assigned, List.pairwise_filter, List.pairwise_iff_getElem]
  intro i j hi hj hlt hx hy
  rw [hplaced i _ (List.getElem?_eq_getElem hi) (of_decide_eq_true hx),
    hplaced j _ (List.getElem?_eq_getElem hj) (of_decide_eq_true hy)]
  exact hlt

/-- A place that is written adds one usage at most. -/
theorem length_assigned_assignAll :
    (assigned (assignAll readFile cpus cpuUsages)).length ≤
      (assigned cpuUsages).length + cpus.length := by
  induction cpus generalizing cpuUsages with
  | nil => exact le_rfl
  | cons cpu cpus ih =>
    have hset : (assigned (cpuUsages.set cpu.num (cpu.usage readFile))).length ≤
        (assigned cpuUsages).length + 1 := by
      rw [assigned, assigned, ← List.countP_eq_length_filter, ← List.countP_eq_length_filter]
      by_cases hlt : cpu.num < cpuUsages.length
      · rw [List.countP_set hlt]
        split_ifs <;> omega
      · rw [List.set_eq_of_length_le (not_lt.mp hlt)]
        exact Nat.le_succ _
    have hrest := @ih (cpuUsages.set cpu.num (cpu.usage readFile))
    rw [List.length_cons]
    exact hrest.trans (by omega)

/-- Usages behind all that are assigned are added in order. -/
theorem assigned_assignAll (bound : ℕ) (hempty : ∀ usage ∈ cpuUsages.drop bound, usage.name = [])
    (hbound : ∀ cpu ∈ cpus, bound ≤ cpu.num) (hlt : ∀ cpu ∈ cpus, cpu.num < cpuUsages.length)
    (hname : ∀ cpu ∈ cpus, cpu.name ≠ []) (hsorted : cpus.Pairwise (·.num < ·.num)) :
    assigned (assignAll readFile cpus cpuUsages) =
      assigned cpuUsages ++ cpus.map (·.usage readFile) := by
  induction cpus generalizing cpuUsages bound with
  | nil => exact (List.append_nil _).symm
  | cons cpu cpus ih =>
    obtain ⟨hle, -⟩ := List.forall_mem_cons.mp hbound
    obtain ⟨hnum, hlt⟩ := List.forall_mem_cons.mp hlt
    obtain ⟨hne, hname⟩ := List.forall_mem_cons.mp hname
    obtain ⟨hfirst, hsorted⟩ := List.pairwise_cons.mp hsorted
    have hnone : ∀ i, bound ≤ i → assigned (cpuUsages.drop i) = [] := by
      intro i hi
      apply List.filter_eq_nil_iff.mpr
      intro usage hmem
      have hmem' : usage ∈ cpuUsages.drop bound :=
        List.IsSuffix.mem hmem (List.drop_suffix_drop_left _ hi)
      rw [hempty usage hmem']
      decide
    have hset : assigned (cpuUsages.set cpu.num (cpu.usage readFile)) =
        assigned cpuUsages ++ [cpu.usage readFile] := by
      have hold : assigned cpuUsages = assigned (cpuUsages.take cpu.num) := by
        conv_lhs => rw [← List.take_append_drop cpu.num cpuUsages]
        rw [assigned, List.filter_append, ← assigned, ← assigned, hnone _ hle, List.append_nil]
      have hkeep : decide ((cpu.usage readFile).name ≠ []) = true := decide_eq_true hne
      have hrest := hnone _ (Nat.le_succ_of_le hle)
      rw [assigned] at hrest
      rw [hold, List.set_eq_take_append_cons_drop, if_pos hnum, assigned, List.filter_append,
        List.filter_cons, if_pos hkeep, hrest, assigned]
    have hrest := @ih (cpuUsages.set cpu.num (cpu.usage readFile)) (cpu.num + 1) ?_
      (fun other hmem => hfirst other hmem) ?_ hname hsorted
    · rw [assignAll, List.foldl_cons, ← assignAll, hrest, hset, List.append_assoc]
      rfl
    · rw [List.drop_set_of_lt (Nat.lt_succ_self _)]
      intro usage hmem
      exact hempty usage (List.IsSuffix.mem hmem
        (List.drop_suffix_drop_left _ (Nat.le_succ_of_le hle)))
    · rw [List.length_set]
      exact hlt

/-! ## The result -/

/-- In the beginning no place is assigned. -/
theorem assigned_replicate (n : ℕ) : assigned (List.replicate n .empty) = [] :=
  List.filter_eq_nil_iff.mpr fun usage hmem => by rw [List.eq_of_mem_replicate hmem]; decide

theorem placed_replicate (n : ℕ) : Placed (List.replicate n .empty) := by
  intro i usage hget hne
  rw [List.eq_of_mem_replicate (List.mem_of_getElem? hget)] at hne
  exact absurd rfl hne

/-- What a processor that is handled is assigned is its usage. -/
theorem Handled.usageOf (h : Handled kMaxCpus readFile cpu) :
    UsageOf readFile cpu (cpu.usage readFile) := by
  obtain ⟨content, hcontent⟩ := h.online
  refine ⟨rfl, rfl, rfl, content, hcontent, ?_⟩
  rw [ListedCpu.usage, hcontent]
  exact decide_eq_true_iff

theorem forall_of_forall₂ {α β : Type} {R : α → β → Prop} {p : β → Prop} {l : List α} {l' : List β}
    (h : List.Forall₂ R l l') (hp : ∀ a b, R a b → p b) : ∀ b ∈ l', p b := by
  induction h with
  | nil => exact List.forall_mem_nil _
  | cons hab _ ih => exact List.forall_mem_cons.mpr ⟨hp _ _ hab, ih⟩

/-- Usages in the order of their numbers are those of processors in that order. -/
theorem pairwise_of_usages {usages : List CpuUsage}
    (hnums : ∀ cpu ∈ cpus, numOf cpu.name = cpu.num)
    (h : List.Forall₂ (UsageOf readFile) cpus usages)
    (hsorted : usages.Pairwise fun x y => numOf x.name < numOf y.name) :
    cpus.Pairwise (·.num < ·.num) := by
  have heq : cpus.map ListedCpu.num = usages.map (numOf ·.name) := by
    induction h with
    | nil => rfl
    | cons hcpu _ ih =>
      obtain ⟨hnum, hnums⟩ := List.forall_mem_cons.mp hnums
      rw [List.map_cons, List.map_cons, ih hnums (List.pairwise_cons.mp hsorted).2, hcpu.name, hnum]
  have hmap := List.pairwise_map.mpr hsorted
  rw [← heq] at hmap
  exact List.pairwise_map.mp hmap

/-- **What is returned.** The call returns the usages of the listed processors, in order, exactly
when each of them is handled and they are listed by increasing numbers. -/
theorem usages_iff {data : List Char}
    (hlists : List.Forall₂ Lists ((getLines data).filter isCpuLine) cpus) :
    (∃ usages, fillCpuUsages kMaxCpus readFile (some data) = .ok usages ∧
        List.Forall₂ (UsageOf readFile) cpus (assigned usages)) ↔
      (∀ cpu ∈ cpus, Handled kMaxCpus readFile cpu) ∧ cpus.Pairwise (·.num < ·.num) := by
  have hspec := @assignUsages_spec kMaxCpus readFile _ _ (List.replicate kMaxCpus .empty) hlists
  have hnums : ∀ cpu ∈ cpus, numOf cpu.name = cpu.num :=
    forall_of_forall₂ hlists fun _ _ h => h.numOf_eq
  have hnames : ∀ cpu ∈ cpus, cpu.name ≠ [] := forall_of_forall₂ hlists fun _ _ h => h.name_ne
  rw [fillCpuUsages, parseCpuUsagesFileAndAssignUsages]
  constructor
  · rintro ⟨usages, hok, husages⟩
    rcases hspec with ⟨⟨e, herror⟩, -⟩ | ⟨done, rest, rfl, hok', hdone, -⟩
    · cases herror.symm.trans hok
    · cases hok'.symm.trans hok
      have hlength := @length_assigned_assignAll readFile done (List.replicate kMaxCpus .empty)
      rw [assigned_replicate, ← husages.length_eq, List.length_append, List.length_nil] at hlength
      have hrest : rest = [] := List.eq_nil_of_length_eq_zero (by omega)
      subst hrest
      rw [List.append_nil] at hnums husages ⊢
      exact ⟨hdone, pairwise_of_usages hnums husages
        ((placed_replicate kMaxCpus).assignAll hnums).sorted⟩
  · rintro ⟨hall, hsorted⟩
    rcases hspec with ⟨-, hnot⟩ | ⟨done, rest, rfl, hok, -, hrest⟩
    · exact absurd hall hnot
    · have hnil : rest = [] := by
        cases rest with
        | nil => rfl
        | cons cpu rest =>
          exact absurd (hall cpu (List.mem_append_right _ List.mem_cons_self)) (hrest cpu rfl)
      subst hnil
      rw [List.append_nil] at hall hsorted hnames ⊢
      refine ⟨_, hok, ?_⟩
      rw [assigned_assignAll 0 ?_ (fun _ _ => Nat.zero_le _) ?_ hnames hsorted,
        assigned_replicate, List.nil_append, List.forall₂_map_right_iff, List.forall₂_same]
      · exact fun cpu hmem => (hall cpu hmem).usageOf
      · exact fun usage hmem => by rw [List.eq_of_mem_replicate (List.mem_of_mem_drop hmem)]; rfl
      · rw [List.length_replicate]
        exact fun cpu hmem => (hall cpu hmem).lt

/-- A file with one processor, which has been idle for `idle`. -/
def oneCpu (idle : List Char) : List Char :=
  "cpu  1 2 3 4\ncpu0 1 2 3 ".toList ++ idle ++ "\nctxt 5\n".toList

/-- The processor in that file. -/
def cpu0 (idle : ℕ) : ListedCpu := ⟨['c', 'p', 'u', '0'], 0, 1, 2, 3, idle⟩

/-- The processor is online. -/
def online (_ : List Char) : Option (List Char) := some "1\n".toList

theorem lists_oneCpu {idle line : List Char} {n : ℕ}
    (hline : (getLines (oneCpu idle)).filter isCpuLine = [line])
    (hwords : line.splitOn ' ' = [['c', 'p', 'u', '0'], ['1'], ['2'], ['3'], idle])
    (hidle : IsDecimal idle n) :
    List.Forall₂ Lists ((getLines (oneCpu idle)).filter isCpuLine) [cpu0 n] := by
  have hdigits : IsDecimal ['0'] 0 ∧ IsDecimal ['1'] 1 ∧ IsDecimal ['2'] 2 ∧ IsDecimal ['3'] 3 := by
    decide +kernel
  obtain ⟨hnum, huser, hnice, hsystem⟩ := hdigits
  rw [hline]
  exact List.Forall₂.cons
    ⟨['0'], _, _, _, _, [], hwords, rfl, hnum, huser, hnice, hsystem, hidle⟩ .nil

/-- A small counter is returned. -/
theorem usages_oneCpu :
    ∃ usages, fillCpuUsages 1 online (some (oneCpu ['4'])) = .ok usages ∧
      List.Forall₂ (UsageOf online) [cpu0 4] (assigned usages) := by
  refine (usages_iff (@lists_oneCpu _ "cpu0 1 2 3 4".toList _ ?_ ?_ ?_)).mpr ⟨?_, ?_⟩
  · decide +kernel
  · decide +kernel
  · decide +kernel
  · refine List.forall_mem_singleton.mpr ⟨?_, ?_, ?_, ?_, ?_, ?_, _, rfl⟩
    all_goals decide
  · exact List.pairwise_singleton _ _

/-- 2^31 -/
def large : List Char := ['2', '1', '4', '7', '4', '8', '3', '6', '4', '8']

/-- A counter of 2^31 makes the call throw. -/
theorem large_counter :
    List.Forall₂ Lists ((getLines (oneCpu large)).filter isCpuLine) [cpu0 (2 ^ 31)] ∧
      ¬ ∃ usages, fillCpuUsages 1 online (some (oneCpu large)) = .ok usages ∧
        List.Forall₂ (UsageOf online) [cpu0 (2 ^ 31)] (assigned usages) := by
  have hthrows : fillCpuUsages 1 online (some (oneCpu large)) = .error .outOfRange := by
    decide +kernel
  constructor
  · apply @lists_oneCpu _ "cpu0 1 2 3 2147483648".toList
    all_goals decide +kernel
  · rintro ⟨usages, hok, -⟩
    cases hthrows.symm.trans hok

end OppoA37.Thermal
