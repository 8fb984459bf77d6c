import OppoA37.Gps.Utils.LocCfg

/-!
# Settings without a value

`loc_util_trim_space` is to remove the spaces at both ends of a string. It puts the new end behind
the last character that is no space, and where there is none it puts no end at all: the string
stays as it is. So a line with nothing but blanks behind `=` stores the blanks.

* `trimmed_trimSpace_iff` says which strings are trimmed.
* `assign_blank` says what such a line does to a string.
* `blank_values` is both; the second part is what remains of a line with an empty value.
-/

namespace OppoA37.LocCfg

open Text

/-! ## Trimming -/

/-- `t` is what is left of `s` without the spaces at both ends: the part from the first to the last
character that is no space, if there is one. -/
structure Trimmed (s t : List Char) : Prop where
  /-- only spaces are removed, and only at the ends -/
  part : ∃ before after, s = before ++ t ++ after ∧
    before.all isSpace = true ∧ after.all isSpace = true
  /-- no space is left in front -/
  first : ∀ c ∈ t.head?, isSpace c = false
  /-- nor at the end -/
  last : ∀ c ∈ t.getLast?, isSpace c = false

/-- What is removed at the end is spaces. -/
theorem rdropWhile_append (s : List Char) : ∃ after, s = s.rdropWhile isSpace ++ after ∧
    after.all isSpace = true := by
  refine ⟨s.rtakeWhile isSpace, (List.rdropWhile_append_rtakeWhile).symm, ?_⟩
  exact List.all_eq_true.mpr fun c hc => List.mem_rtakeWhile_imp hc

/-- `trim` removes the spaces at both ends. -/
theorem trimmed_trim (s : List Char) : Trimmed s (trim s) := by
  obtain ⟨after, hafter, hspaces⟩ := rdropWhile_append (s.dropWhile isSpace)
  refine ⟨⟨s.takeWhile isSpace, after, ?_, ?_, hspaces⟩, fun c hc => ?_, fun c hc => ?_⟩
  · rw [trim, List.append_assoc, ← hafter]
    exact List.takeWhile_append_dropWhile.symm
  · exact List.all_eq_true.mpr fun c hc => List.mem_takeWhile_imp hc
  · -- what is first is first without the spaces at the end, too
    have hfront : trim s <+: s.dropWhile isSpace := List.rdropWhile_prefix isSpace _
    have hfirst : c ∈ (s.dropWhile isSpace).head? := by
      obtain ⟨rest, hrest⟩ := hfront
      rw [← hrest, List.head?_append, Option.mem_def.mp hc]
      rfl
    have hhead := List.head?_dropWhile_not isSpace s
    rw [Option.mem_def.mp hfirst] at hhead
    simpa using hhead
  · rw [trim] at hc
    have hne : (s.dropWhile isSpace).rdropWhile isSpace ≠ [] := by
      intro hnil
      rw [hnil] at hc
      cases hc
    have hlast := List.rdropWhile_last_not isSpace (s.dropWhile isSpace) hne
    rw [List.getLast?_eq_some_getLast hne, Option.mem_some_iff] at hc
    rw [hc] at hlast
    simpa using hlast

/-- Nothing is left of spaces alone, and an empty string is not more. -/
theorem Trimmed.eq_nil {s t : List Char} (h : Trimmed s t) (hs : s.all isSpace = true) :
    t = [] := by
  obtain ⟨⟨before, after, rfl, -, -⟩, hfirst, -⟩ := h
  cases t with
  | nil => rfl
  | cons c t =>
    have hc := List.all_eq_true.mp hs c (by simp)
    rw [hfirst c rfl] at hc
    cases hc

/-- **`loc_util_trim_space` trims** an empty string, and one that has more than spaces. -/
theorem trimmed_trimSpace_iff (s : List Char) :
    Trimmed s (trimSpace s) ↔ s = [] ∨ ∃ c ∈ s, isSpace c = false := by
  rw [trimSpace_eq]
  rcases hs : s.all isSpace with _ | _
  · refine iff_of_true (trimmed_trim s) (Or.inr ?_)
    obtain ⟨c, hc, hspace⟩ := List.all_eq_false.mp hs
    exact ⟨c, hc, by simpa using hspace⟩
  · rw [if_pos rfl]
    refine ⟨?_, ?_⟩
    · exact fun h => Or.inl (h.eq_nil hs)
    · rintro (rfl | ⟨c, hc, hspace⟩)
      · exact trimmed_trim []
      · rw [List.all_eq_true.mp hs c hc] at hspace
        cases hspace

/-! ## Lines with blanks -/

section Lines

variable {F : Type*} [Zero F] (atof : List Char → F)
variable {name blanks : List Char} {e : Param F}

/-- What `strtok_r` finds in an item. -/
theorem strtok_item (hne : name ≠ []) (hname : '=' ∉ name) (hblanks : '=' ∉ blanks) :
    strtok '=' (name ++ '=' :: blanks) = name :: if blanks = [] then [] else [blanks] := by
  have hno : ∀ l : List Char, '=' ∉ l → ∀ c ∈ l, (c == '=') = false := by
    intro l hl c hc
    rw [beq_eq_false_iff_ne]
    rintro rfl
    exact hl hc
  show words (· == '=') (name ++ '=' :: blanks) = _
  rw [words_append_cons (hno name hname) hne rfl]
  split_ifs with hnil
  · rw [hnil]
    rfl
  · rw [words_of_forall (hno blanks hblanks) hnil]

/-- A line of a name and blanks stores the blanks, if there are any. -/
theorem assigned_blank (hne : name ≠ []) (hname : '=' ∉ name) (hnul : NUL ∉ name)
    (hblanks : blanks.all isSpace = true) (htype : e.paramType = 's')
    (hentry : e.paramName = trimSpace name) (hptr : e.paramPtr.isSome = true) :
    assigned atof (name ++ '=' :: blanks) e =
      if blanks = [] then none else some (.str (blanks.take locMaxParamString)) := by
  have hspace : ∀ c ∈ blanks, isSpace c = true := List.all_eq_true.mp hblanks
  have hno : ∀ c, isSpace c = false → c ∉ blanks := by
    intro c hc hmem
    rw [hspace c hmem] at hc
    cases hc
  have hline : cString (name ++ '=' :: blanks) = name ++ '=' :: blanks := by
    apply takeWhile_ne_nul
    rw [List.mem_append, List.mem_cons, not_or, not_or]
    exact ⟨hnul, by decide, hno NUL rfl⟩
  have htrim : trimSpace blanks = blanks := by rw [trimSpace_eq, if_pos hblanks]
  rw [assigned, parseConfItem, hline, strtok_item hne hname (hno '=' rfl)]
  split_ifs with hnil
  · rfl
  · have hword : blanks ≠ "NULL".toList := by
      rintro rfl
      cases hblanks
    dsimp only
    rw [htrim]
    split_ifs <;>
    · rw [Option.bind_some, valueFor, if_pos ⟨hentry, hptr⟩, storedValue, if_pos htype,
        if_neg hword]

/-- **A line of a name and blanks** leaves an empty string just if there is not even a blank, and
the string was empty before. -/
theorem assign_blank (hne : name ≠ []) (hname : '=' ∉ name) (hnul : NUL ∉ name)
    (hblanks : blanks.all isSpace = true) (htype : e.paramType = 's')
    (hentry : e.paramName = trimSpace name) (hptr : e.paramPtr.isSome = true) :
    (e.assign (assigned atof (name ++ '=' :: blanks) e)).paramPtr = some (.str []) ↔
      blanks = [] ∧ e.paramPtr = some (.str []) := by
  rw [assigned_blank atof hne hname hnul hblanks htype hentry hptr, Param.assign_paramPtr]
  split_ifs with hnil
  · rw [Option.none_or, and_iff_right hnil]
  · refine iff_of_false (fun heq => hnil ?_) fun h => hnil h.1
    have hstr : blanks.take locMaxParamString = [] := Value.str.inj (Option.some.inj heq)
    rw [List.take_eq_nil_iff] at hstr
    exact hstr.resolve_left (Nat.succ_ne_zero _)

/-- **Strings are trimmed** if they are empty or more than spaces, and a line with only blanks
behind `=` does not store an empty string, ever: it leaves one where there was one, when there is
not even a blank. -/
theorem blank_values :
    (∀ s : List Char, Trimmed s (trimSpace s) ↔ s = [] ∨ ∃ c ∈ s, isSpace c = false) ∧
    ∀ (name blanks : List Char) (t : List (Param F)) (i : ℕ) (e : Param F), t[i]? = some e →
      name ≠ [] → '=' ∉ name → NUL ∉ name → blanks.all isSpace = true → e.paramType = 's' →
      e.paramName = trimSpace name → e.paramPtr.isSome = true →
      ((fillConfItem atof (name ++ '=' :: blanks) t).2[i]?.bind Param.paramPtr =
          some (.str []) ↔
        blanks = [] ∧ e.paramPtr = some (.str [])) := by
  refine ⟨trimmed_trimSpace_iff, ?_⟩
  intro name blanks t i e hi hne hname hnul hblanks htype hentry hptr
  rw [fillConfItem_eq, List.getElem?_map, hi, Option.map_some, Option.bind_some]
  exact assign_blank atof hne hname hnul hblanks htype hentry hptr

end Lines

/-- An entry for a server. -/
def serverEntry : Param ℤ := ⟨"SUPL_HOST".toList, some (.str "host".toList), none, 's'⟩

/-- A server that is set to a blank. -/
theorem blank_server :
    (Trimmed " a ".toList (trimSpace " a ".toList) ↔
      " a ".toList = [] ∨ ∃ c ∈ " a ".toList, isSpace c = false) ∧
    ((fillConfItem (fun _ => 0) ("SUPL_HOST".toList ++ '=' :: ['\n']) [serverEntry]).2[0]?.bind
        Param.paramPtr = some (.str []) ↔
      ['\n'] = [] ∧ serverEntry.paramPtr = some (.str [])) :=
  ⟨(blank_values (fun _ => (0 : ℤ))).1 " a ".toList,
    (blank_values (fun _ => (0 : ℤ))).2 "SUPL_HOST".toList ['\n'] [serverEntry] 0 serverEntry rfl
      (by decide) (by decide) (by decide) rfl rfl rfl rfl⟩

/-- A line feed is left as it is, and becomes the name of the server. -/
theorem line_feed_stored : ¬ Trimmed ['\n'] (trimSpace ['\n']) ∧
    (fillConfItem (fun _ => 0) ("SUPL_HOST".toList ++ '=' :: ['\n']) [serverEntry]).2[0]?.bind
      Param.paramPtr = some (.str ['\n']) := by
  refine ⟨fun h => ?_, by decide⟩
  have hnil : trimSpace ['\n'] = [] := h.eq_nil rfl
  cases hnil

end OppoA37.LocCfg
