import OppoA37.Gps.Nmea.Sentence

/-!
# `loc_eng_nmea_generate_sv`

A report of the satellites in view becomes sentences for GPS and for GLONASS, four satellites to a
sentence. Both go over the whole list of the report, with one index for all their sentences, and
pass over what is not theirs.

`generateSv_spec` says that each system is listed completely and in order, and that every
sentence says how many there are and which one it is.
-/

namespace OppoA37.Nmea

open Text

/-- A satellite of a report. -/
structure GpsSvInfo where
  /-- `prn` -/
  prn : ℤ
  /-- `snr` -/
  snr : ℚ
  /-- `elevation` -/
  elevation : ℚ
  /-- `azimuth` -/
  azimuth : ℚ
  deriving DecidableEq, Repr

/-- What the function uses of a `QcomSvStatus`. -/
structure SvStatus where
  /-- the first `num_svs` of `sv_list` -/
  svList : List GpsSvInfo
  /-- `gps_used_in_fix_mask` -/
  gpsUsedInFixMask : ℕ
  /-- `glo_used_in_fix_mask` -/
  gloUsedInFixMask : ℕ

/-! ## The loops -/

/-- A satellite from `GPS_PRN_START` to `GPS_PRN_END`. -/
def isGps (sv : GpsSvInfo) : Bool := 1 ≤ sv.prn && sv.prn ≤ 32

/-- A satellite from `GLONASS_PRN_START` to `GLONASS_PRN_END`. -/
def isGlonass (sv : GpsSvInfo) : Bool := 65 ≤ sv.prn && sv.prn ≤ 96

/-- `gpsCount` and `glnCount` -/
def countSvs : List GpsSvInfo → ℕ × ℕ
  | [] => (0, 0)
  | sv :: svs =>
    let (gpsCount, glnCount) := countSvs svs
    if isGps sv then (gpsCount + 1, glnCount)
    else if isGlonass sv then (gpsCount, glnCount + 1)
    else (gpsCount, glnCount)

/-- `(int)(0.5 + x)` -/
def rounded (x : ℚ) : ℤ := trunc (1 / 2 + x)

/-- The number of a satellite, and where it is. -/
def svPiece (sv : GpsSvInfo) : List Char :=
  ',' :: paddedInt 2 sv.prn ++ ',' :: paddedInt 2 (rounded sv.elevation) ++
    ',' :: paddedInt 3 (rounded sv.azimuth) ++ [',']

/-- How strong its signal is. -/
def snrPiece (sv : GpsSvInfo) : List Char := paddedInt 2 (rounded sv.snr)

/-- The `for` loop: it lists satellites of a system until there are four of them, and leaves the
others to the next sentence. -/
def listSvs (inSystem : GpsSvInfo → Bool) :
    ℕ → List GpsSvInfo → List Char → Option (List Char × List GpsSvInfo)
  | _, [], sentence => some (sentence, [])
  | i, sv :: svs, sentence =>
    if i < 4 then
      if inSystem sv then do
        let sentence ← print (svPiece sv) sentence
        let sentence ← if sv.snr > 0 then print (snrPiece sv) sentence else some sentence
        listSvs inSystem (i + 1) svs sentence
      else listSvs inSystem i svs sentence
    else some (sentence, sv :: svs)

/-- The beginning of a sentence. -/
def gsvHeader (talker : List Char) (sentenceCount sentenceNumber svCount : ℕ) : List Char :=
  talker ++ ',' :: paddedInt 0 sentenceCount ++ ',' :: paddedInt 0 sentenceNumber ++
    ',' :: paddedInt 2 svCount

/-- The `while` loop, with the number of sentences that are still to come: the sentences that are
sent, and whether none was given up. -/
def sendGsvs (talker : List Char) (inSystem : GpsSvInfo → Bool) (sentenceCount svCount : ℕ) :
    ℕ → ℕ → List GpsSvInfo → List (List Char) × Bool
  | 0, _, _ => ([], true)
  | left + 1, sentenceNumber, svs =>
    let listed := do
      let sentence ← print (gsvHeader talker sentenceCount sentenceNumber svCount) []
      listSvs inSystem 0 svs sentence
    match listed with
    | none => ([], false)
    | some (sentence, svs) =>
      let (sent, ok) := sendGsvs talker inSystem sentenceCount svCount left (sentenceNumber + 1) svs
      (putChecksum sentence :: sent, ok)

/-- The sentences of a system. -/
def gsvs (talker : List Char) (inSystem : GpsSvInfo → Bool) (svCount : ℕ)
    (svs : List GpsSvInfo) : List (List Char) × Bool :=
  if svCount = 0 then ([putChecksum (talker ++ ",1,1,0,".toList)], true)
  else
    let sentenceCount := svCount / 4 + if svCount % 4 ≠ 0 then 1 else 0
    sendGsvs talker inSystem sentenceCount svCount sentenceCount 1 svs

/-- `$GPGSV` -/
def gpgsvs : ℕ → List GpsSvInfo → List (List Char) × Bool := gsvs "$GPGSV".toList isGps

/-- `$GLGSV` -/
def glgsvs : ℕ → List GpsSvInfo → List (List Char) × Bool := gsvs "$GLGSV".toList isGlonass

/-- `loc_eng_nmea_generate_sv`: what is cached, and the sentences that are sent. -/
def generateSv (data : EngData) (svStatus : SvStatus) (ext : LocationExtended) :
    EngData × List (List Char) :=
  let (gpsCount, glnCount) := countSvs svStatus.svList
  let (gps, gpsOk) := gpgsvs gpsCount svStatus.svList
  if !gpsOk then (data, gps)
  else
    let (gln, glnOk) := glgsvs glnCount svStatus.svList
    if !glnOk then (data, gps ++ gln)
    else
      ({ gpsUsedMask := svStatus.gpsUsedInFixMask
         gloUsedMask := svStatus.gloUsedInFixMask
         pdop := if ext.hasDop then ext.pdop else 0
         hdop := if ext.hasDop then ext.hdop else 0
         vdop := if ext.hasDop then ext.vdop else 0 },
        gps ++ gln)

/-! ## What should be sent -/

/-- Elevation, azimuth and strength have three digits at most before the point. -/
structure SvInRange (sv : GpsSvInfo) : Prop where
  /-- `elevation` -/
  elevation : |sv.elevation| < 1000
  /-- `azimuth` -/
  azimuth : |sv.azimuth| < 1000
  /-- `snr` -/
  snr : sv.snr < 1000

/-- What a sentence says about a satellite. -/
def svText (sv : GpsSvInfo) : List Char := svPiece sv ++ if sv.snr > 0 then snrPiece sv else []

/-- A sentence with its whole checksum. -/
def checksummed (sentence : List Char) : List Char :=
  sentence ++ '*' :: (hexByte (checksum sentence.tail) ++ ['\r', '\n'])

/-- These sentences list the satellites of a system, in order and each once: four to a sentence at
most, and a blank sentence if there are none. -/
structure Pages (talker : List Char) (svs : List GpsSvInfo) (sentences : List (List Char)) :
    Prop where
  /-- no satellite -/
  blank : svs = [] → sentences = [checksummed (talker ++ ",1,1,0,".toList)]
  /-- some satellites -/
  pages : svs ≠ [] → ∃ groups : List (List GpsSvInfo), groups.flatten = svs ∧
    (∀ group ∈ groups, group.length ≤ 4) ∧ groups.length = (svs.length + 3) / 4 ∧
    sentences = groups.mapIdx fun k group =>
      checksummed (gsvHeader talker groups.length (k + 1) svs.length ++ group.flatMap svText)

/-! ## Lengths -/

variable {sv : GpsSvInfo} {svs : List GpsSvInfo} {inSystem : GpsSvInfo → Bool}
  {sentence talker : List Char}

/-- A number in range is rounded to a number of three digits, or to 1000. -/
theorem rounded_bounds {x : ℚ} (hlow : -1000 < x) (hhigh : x < 1000) :
    -(10 ^ 3 : ℤ) < rounded x ∧ rounded x < 10 ^ (3 + 1) := by
  rw [rounded, trunc]
  split
  · rename_i hpos
    have hle : (0 : ℤ) ≤ ⌊1 / 2 + x⌋ := Int.floor_nonneg.mpr hpos
    have hlt : ⌊1 / 2 + x⌋ < 1001 := Int.floor_lt.mpr (by push_cast; linarith)
    omega
  · rename_i hneg
    have hlt : -1000 < ⌈1 / 2 + x⌉ := Int.lt_ceil.mpr (by push_cast; linarith)
    have hle : ⌈1 / 2 + x⌉ ≤ 0 := Int.ceil_le.mpr (by push_cast; linarith)
    omega

theorem length_rounded_le {w : ℕ} {x : ℚ} (hw : w ≤ 4) (hlow : -1000 < x) (hhigh : x < 1000) :
    (paddedInt w (rounded x)).length ≤ 4 :=
  length_paddedInt_le hw (by decide) (rounded_bounds hlow hhigh).1 (rounded_bounds hlow hhigh).2

/-- A satellite takes little space. -/
theorem length_svPiece_le (hprn : 1 ≤ sv.prn ∧ sv.prn ≤ 96) (h : SvInRange sv) :
    (svPiece sv).length ≤ 14 := by
  obtain ⟨helevation, helevation'⟩ := abs_lt.mp h.elevation
  obtain ⟨hazimuth, hazimuth'⟩ := abs_lt.mp h.azimuth
  have hnumber : (paddedInt 2 sv.prn).length ≤ 1 + 1 :=
    length_paddedInt_le le_rfl (by decide) (by omega) (by omega)
  have helev := length_rounded_le (w := 2) (by decide) helevation helevation'
  have hazim := length_rounded_le (w := 3) (by decide) hazimuth hazimuth'
  simp only [svPiece, List.length_append, List.length_cons, List.length_nil]
  omega

theorem length_snrPiece_le (h : SvInRange sv) (hpos : sv.snr > 0) : (snrPiece sv).length ≤ 4 :=
  length_rounded_le (by decide) (by linarith) h.snr

/-- The beginning of a sentence takes little space. -/
theorem length_gsvHeader_le {sentenceCount sentenceNumber svCount : ℕ}
    (htalker : talker.length ≤ 6) (hcount : sentenceCount < 2 ^ 31)
    (hnumber : sentenceNumber < 2 ^ 31) (hsvs : svCount < 2 ^ 31) :
    (gsvHeader talker sentenceCount sentenceNumber svCount).length ≤ 39 := by
  have hint : ∀ {w n : ℕ}, w ≤ 2 → n < 2 ^ 31 → (paddedInt w n).length ≤ 9 + 1 :=
    fun hw hn => length_paddedInt_le (by omega) (by decide) (by omega) (by omega)
  have h₁ := hint (Nat.zero_le 2) hcount
  have h₂ := hint (Nat.zero_le 2) hnumber
  have h₃ := hint (le_refl 2) hsvs
  simp only [gsvHeader, List.length_append, List.length_cons]
  omega

/-- The checksum of a short sentence is whole. -/
theorem putChecksum_eq (h : sentence.length ≤ 194) :
    putChecksum sentence = checksummed sentence := by
  rw [putChecksum, printLast, List.take_of_length_le, checksummed]
  simp only [maxLength, hexByte, List.length_cons, List.length_append, List.length_nil]
  omega

/-! ## The list in a sentence -/

/-- One satellite is listed. -/
theorem listSvs_cons_pos {i : ℕ} (hi : i < 4) (hsv : inSystem sv = true)
    (hprn : 1 ≤ sv.prn ∧ sv.prn ≤ 96) (hrange : SvInRange sv) (hlen : sentence.length + 18 < 200) :
    listSvs inSystem i (sv :: svs) sentence =
      listSvs inSystem (i + 1) svs (sentence ++ svText sv) := by
  have hpiece := length_svPiece_le hprn hrange
  have hfirst : print (svPiece sv) sentence = some (sentence ++ svPiece sv) :=
    print_eq (by rw [maxLength]; omega)
  rw [listSvs, if_pos hi, if_pos hsv, hfirst, Option.bind_eq_bind, Option.bind_some, svText]
  by_cases hsnr : sv.snr > 0
  · have hsnrPiece := length_snrPiece_le hrange hsnr
    have hsecond : print (snrPiece sv) (sentence ++ svPiece sv) =
        some (sentence ++ svPiece sv ++ snrPiece sv) :=
      print_eq (by rw [maxLength, List.length_append]; omega)
    rw [if_pos hsnr, if_pos hsnr, hsecond, List.append_assoc]
    rfl
  · rw [if_neg hsnr, if_neg hsnr, List.append_nil]
    rfl

theorem length_svText_le (hprn : 1 ≤ sv.prn ∧ sv.prn ≤ 96) (h : SvInRange sv) :
    (svText sv).length ≤ 18 := by
  have hpiece := length_svPiece_le hprn h
  rw [svText, List.length_append]
  split
  · rename_i hpos
    have hsnr := length_snrPiece_le h hpos
    omega
  · rw [List.length_nil]
    omega

/-- A sentence lists the next satellites of its system, as many as it has place for, and leaves
the others of them. -/
theorem listSvs_eq (hprn : ∀ sv, inSystem sv = true → 1 ≤ sv.prn ∧ sv.prn ≤ 96)
    (hrange : ∀ sv ∈ svs, SvInRange sv) {i : ℕ} (hi : i ≤ 4)
    (hlen : sentence.length + 18 * (4 - i) < 200) :
    ∃ rest, listSvs inSystem i svs sentence =
        some (sentence ++ ((svs.filter inSystem).take (4 - i)).flatMap svText, rest) ∧
      rest.filter inSystem = (svs.filter inSystem).drop (4 - i) ∧ ∀ sv ∈ rest, sv ∈ svs := by
  induction svs generalizing i sentence with
  | nil => exact ⟨[], by simp [listSvs], by simp, fun sv h => h⟩
  | cons sv svs ih =>
    obtain ⟨hsv, hsvs⟩ := List.forall_mem_cons.mp hrange
    rcases hi.eq_or_lt with rfl | hlt
    · -- the sentence is full
      refine ⟨sv :: svs, ?_, rfl, fun sv h => h⟩
      rw [listSvs, if_neg (lt_irrefl 4)]
      simp
    · have hsub : 4 - i = 4 - (i + 1) + 1 := by omega
      by_cases hin : inSystem sv = true
      · have htext := length_svText_le (hprn sv hin) hsv
        obtain ⟨rest, heq, hrest, hmem⟩ := @ih (sentence ++ svText sv) hsvs (i + 1) (by omega)
          (by rw [List.length_append]; omega)
        refine ⟨rest, ?_, ?_, fun sv h => List.mem_cons_of_mem _ (hmem sv h)⟩
        · rw [listSvs_cons_pos hlt hin (hprn sv hin) hsv (by omega), heq,
            List.filter_cons_of_pos hin, hsub, List.take_succ_cons, List.flatMap_cons,
            List.append_assoc]
        · rw [hrest, List.filter_cons_of_pos hin, hsub, List.drop_succ_cons]
      · obtain ⟨rest, heq, hrest, hmem⟩ := @ih sentence hsvs i hi hlen
        refine ⟨rest, ?_, ?_, fun sv h => List.mem_cons_of_mem _ (hmem sv h)⟩
        · rw [listSvs, if_pos hlt, if_neg hin, heq, List.filter_cons_of_neg hin]
        · rw [hrest, List.filter_cons_of_neg hin]

theorem length_flatMap_svText_le (hprn : ∀ sv ∈ svs, 1 ≤ sv.prn ∧ sv.prn ≤ 96)
    (hrange : ∀ sv ∈ svs, SvInRange sv) : (svs.flatMap svText).length ≤ 18 * svs.length := by
  induction svs with
  | nil => exact le_rfl
  | cons sv svs ih =>
    obtain ⟨hnumber, hnumbers⟩ := List.forall_mem_cons.mp hprn
    obtain ⟨hsv, hsvs⟩ := List.forall_mem_cons.mp hrange
    have htext := length_svText_le hnumber hsv
    have hrest := ih hnumbers hsvs
    rw [List.flatMap_cons, List.length_append, List.length_cons]
    omega

/-! ## The sentences of a system -/

/-- The sentences that are still to come list the satellites that are left. -/
theorem sendGsvs_eq (hprn : ∀ sv, inSystem sv = true → 1 ≤ sv.prn ∧ sv.prn ≤ 96)
    (htalker : talker.length ≤ 6) {sentenceCount svCount : ℕ} (hcount : sentenceCount < 2 ^ 31)
    (hsvCount : svCount < 2 ^ 31) {left sentenceNumber : ℕ} (hrange : ∀ sv ∈ svs, SvInRange sv)
    (hleft : left = ((svs.filter inSystem).length + 3) / 4)
    (hnumber : sentenceNumber + left ≤ sentenceCount + 1) :
    ∃ groups : List (List GpsSvInfo), groups.flatten = svs.filter inSystem ∧
      (∀ group ∈ groups, group.length ≤ 4) ∧ groups.length = left ∧
      sendGsvs talker inSystem sentenceCount svCount left sentenceNumber svs =
        (groups.mapIdx fun k group => checksummed
          (gsvHeader talker sentenceCount (sentenceNumber + k) svCount ++ group.flatMap svText),
          true) := by
  induction left generalizing sentenceNumber svs with
  | zero =>
    have hnil : svs.filter inSystem = [] := List.eq_nil_of_length_eq_zero (by omega)
    exact ⟨[], hnil.symm, List.forall_mem_nil _, rfl, rfl⟩
  | succ left ih =>
    have hheader := length_gsvHeader_le htalker hcount
      (show sentenceNumber < 2 ^ 31 by omega) hsvCount
    have hprint : print (gsvHeader talker sentenceCount sentenceNumber svCount) [] =
        some (gsvHeader talker sentenceCount sentenceNumber svCount) :=
      print_eq (by rw [maxLength, List.length_nil]; omega)
    obtain ⟨rest, hlist, hrest, hmem⟩ := listSvs_eq hprn hrange (Nat.zero_le 4)
      (show (gsvHeader talker sentenceCount sentenceNumber svCount).length + _ < 200 by omega)
    rw [Nat.sub_zero] at hlist hrest
    have hlength : (rest.filter inSystem).length = (svs.filter inSystem).length - 4 := by
      rw [hrest, List.length_drop]
    obtain ⟨groups, hflatten, hfour, hgroups, hsend⟩ := @ih rest (sentenceNumber + 1)
      (fun sv h => hrange sv (hmem sv h)) (by omega) (by omega)
    refine ⟨(svs.filter inSystem).take 4 :: groups, ?_, ?_, congrArg (· + 1) hgroups, ?_⟩
    · rw [List.flatten_cons, hflatten, hrest, List.take_append_drop]
    · exact List.forall_mem_cons.mpr ⟨List.length_take_le _ _, hfour⟩
    · have hgroup : ∀ sv ∈ (svs.filter inSystem).take 4, inSystem sv = true ∧ SvInRange sv := by
        intro sv h
        obtain ⟨hsvs, hin⟩ := List.mem_filter.mp (List.mem_of_mem_take h)
        exact ⟨hin, hrange sv hsvs⟩
      have htext := length_flatMap_svText_le (fun sv h => hprn sv (hgroup sv h).1)
        (fun sv h => (hgroup sv h).2)
      have htake := List.length_take_le 4 (svs.filter inSystem)
      have hnext : ∀ k, sentenceNumber + 1 + k = sentenceNumber + (k + 1) := fun k => by omega
      rw [sendGsvs, hprint, Option.bind_eq_bind, Option.bind_some, hlist]
      dsimp only
      rw [hsend, List.mapIdx_cons, putChecksum_eq (by rw [List.length_append]; omega)]
      simp only [hnext, Nat.add_zero]

/-- Both systems are counted. -/
theorem countSvs_eq (svs : List GpsSvInfo) :
    countSvs svs = ((svs.filter isGps).length, (svs.filter isGlonass).length) := by
  induction svs with
  | nil => rfl
  | cons sv svs ih =>
    rw [countSvs, ih]
    dsimp only
    by_cases hgps : isGps sv = true
    · have hgln : ¬ isGlonass sv = true := by
        simp only [isGps, isGlonass, Bool.and_eq_true, decide_eq_true_eq] at hgps ⊢
        omega
      rw [if_pos hgps, List.filter_cons_of_pos hgps, List.filter_cons_of_neg hgln]
      rfl
    · rw [if_neg hgps, List.filter_cons_of_neg hgps]
      by_cases hgln : isGlonass sv = true
      · rw [if_pos hgln, List.filter_cons_of_pos hgln]
        rfl
      · rw [if_neg hgln, List.filter_cons_of_neg hgln]

/-- A system gets its pages. -/
theorem gsvs_eq (hprn : ∀ sv, inSystem sv = true → 1 ≤ sv.prn ∧ sv.prn ≤ 96)
    (htalker : talker.length ≤ 6) (hrange : ∀ sv ∈ svs, SvInRange sv)
    (hlen : svs.length < 2 ^ 31) :
    ∃ sentences, gsvs talker inSystem (svs.filter inSystem).length svs = (sentences, true) ∧
      Pages talker (svs.filter inSystem) sentences := by
  have hle : (svs.filter inSystem).length ≤ svs.length := List.length_filter_le _ _
  rw [gsvs]
  by_cases hzero : (svs.filter inSystem).length = 0
  · have hnil := List.eq_nil_of_length_eq_zero hzero
    refine ⟨_, if_pos hzero, fun _ => ?_, fun hne => absurd hnil hne⟩
    rw [putChecksum_eq]
    have hblank : ",1,1,0,".toList.length = 7 := by decide
    rw [List.length_append, hblank]
    omega
  · have hcount : (svs.filter inSystem).length / 4 +
        (if (svs.filter inSystem).length % 4 ≠ 0 then 1 else 0) =
          ((svs.filter inSystem).length + 3) / 4 := by
      split <;> omega
    rw [if_neg hzero]
    dsimp only
    rw [hcount]
    obtain ⟨groups, hflatten, hfour, hgroups, hsend⟩ := @sendGsvs_eq svs inSystem talker hprn
      htalker (((svs.filter inSystem).length + 3) / 4) (svs.filter inSystem).length (by omega)
      (by omega) (((svs.filter inSystem).length + 3) / 4) 1 hrange rfl (by omega)
    refine ⟨_, hsend, fun hnil => absurd (hnil ▸ rfl) hzero, fun _ =>
      ⟨groups, hflatten, hfour, hgroups, ?_⟩⟩
    rw [hgroups]
    simp only [Nat.add_comm 1]

/-- **The satellites in view.** Two lists of sentences are sent, one for each system, and they list
all its satellites. -/
theorem generateSv_spec (data : EngData) (svStatus : SvStatus) (ext : LocationExtended)
    (hrange : ∀ sv ∈ svStatus.svList, SvInRange sv) (hlen : svStatus.svList.length < 2 ^ 31) :
    ∃ gps gln, (generateSv data svStatus ext).2 = gps ++ gln ∧
      Pages "$GPGSV".toList (svStatus.svList.filter isGps) gps ∧
      Pages "$GLGSV".toList (svStatus.svList.filter isGlonass) gln := by
  have hgpsPrn : ∀ sv, isGps sv = true → 1 ≤ sv.prn ∧ sv.prn ≤ 96 := by
    intro sv h
    simp only [isGps, Bool.and_eq_true, decide_eq_true_eq] at h
    omega
  have hglnPrn : ∀ sv, isGlonass sv = true → 1 ≤ sv.prn ∧ sv.prn ≤ 96 := by
    intro sv h
    simp only [isGlonass, Bool.and_eq_true, decide_eq_true_eq] at h
    omega
  obtain ⟨gps, hgps, hgpsPages⟩ :=
    gsvs_eq hgpsPrn (show "$GPGSV".toList.length ≤ 6 by decide) hrange hlen
  obtain ⟨gln, hgln, hglnPages⟩ :=
    gsvs_eq hglnPrn (show "$GLGSV".toList.length ≤ 6 by decide) hrange hlen
  refine ⟨gps, gln, ?_, hgpsPages, hglnPages⟩
  rw [generateSv, countSvs_eq]
  simp only [gpgsvs, glgsvs, hgps, hgln]
  rfl

/-- Five satellites of GPS, with one of GLONASS and one of no system between them. -/
def mixedSvs : List GpsSvInfo :=
  [5, 70, 7, 12, 120, 30, 32].map fun prn => ⟨prn, 201 / 10, 45, 359⟩

/-- They are listed completely. -/
theorem generateSv_mixed :
    ∃ gps gln, (generateSv ⟨0, 0, 0, 0, 0⟩ ⟨mixedSvs, 0, 0⟩
        ⟨false, false, false, 0, 0, 0, 0, 0⟩).2 = gps ++ gln ∧
      Pages "$GPGSV".toList (mixedSvs.filter isGps) gps ∧
      Pages "$GLGSV".toList (mixedSvs.filter isGlonass) gln := by
  refine generateSv_spec _ ⟨mixedSvs, 0, 0⟩ _ ?_ (by decide)
  intro sv h
  obtain ⟨prn, -, rfl⟩ := List.mem_map.mp h
  refine ⟨?_, ?_, ?_⟩
  all_goals norm_num

end OppoA37.Nmea
