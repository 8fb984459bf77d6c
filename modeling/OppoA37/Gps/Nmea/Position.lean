import OppoA37.Gps.Nmea.Sentence

/-!
# `loc_eng_nmea_generate_pos`

A position report becomes five sentences: `$GPGSA` and `$GNGSA` with the satellites that were
used, `$GPVTG` with the course, `$GPRMC` and `$GPGGA` with the position. Floating point numbers are
rational numbers here.

Two things go wrong on the way:

* the magnetic track is computed in a variable of an inner block, and what is printed is the outer
  one (`magTrack_iff`);
* degrees and minutes are taken apart before the minutes are rounded, so that a sentence can say 60
  minutes (`coordinates_iff` in the next module).
-/

namespace OppoA37.Nmea

open Text

/-! ## The report -/

/-- What the function uses of a `GpsLocation`. -/
structure GpsLocation where
  /-- `flags & GPS_LOCATION_HAS_LAT_LONG` -/
  hasLatLong : Bool
  /-- `flags & GPS_LOCATION_HAS_ALTITUDE` -/
  hasAltitude : Bool
  /-- `flags & GPS_LOCATION_HAS_SPEED` -/
  hasSpeed : Bool
  /-- `flags & GPS_LOCATION_HAS_BEARING` -/
  hasBearing : Bool
  /-- `latitude` -/
  latitude : ℚ
  /-- `longitude` -/
  longitude : ℚ
  /-- `altitude` -/
  altitude : ℚ
  /-- `speed` -/
  speed : ℚ
  /-- `bearing` -/
  bearing : ℚ
  /-- `timestamp` -/
  timestamp : ℤ

/-- What the function uses of a `tm`. -/
structure Tm where
  /-- `tm_year` -/
  year : ℤ
  /-- `tm_mon` -/
  mon : ℤ
  /-- `tm_mday` -/
  mday : ℤ
  /-- `tm_hour` -/
  hour : ℤ
  /-- `tm_min` -/
  min : ℤ
  /-- `tm_sec` -/
  sec : ℤ

/-! ## Pieces -/

/-- `fmod` -/
def fmod (x y : ℚ) : ℚ := x - y * trunc (x / y)

/-- `%.1lf` -/
def oneDigit (x : ℚ) : List Char := fixed 0 1 x

/-- `uint8_t` of a whole number -/
def toUInt8 (n : ℤ) : ℤ := n % 256

/-- `$GPRMC` and `$GPGGA`: the time of the day. -/
def timePiece (pTm : Tm) (timestamp : ℤ) : List Char :=
  paddedInt 2 pTm.hour ++ paddedInt 2 pTm.min ++ paddedInt 2 pTm.sec ++
    '.' :: paddedInt 2 ((timestamp.tmod 1000).tdiv 10)

/-- `%2.2d` -/
def twoDigits (n : ℤ) : List Char := if n < 0 then '-' :: padded 2 n.natAbs else padded 2 n.natAbs

/-- `$GPRMC`: the date. -/
def datePiece (pTm : Tm) : List Char :=
  twoDigits pTm.mday ++ twoDigits (pTm.mon + 1) ++ twoDigits (pTm.year.tmod 100) ++ [',']

/-- The numbers of the bits of a mask, from `i` on; there are 32 at most. -/
def usedList : ℕ → ℕ → ℕ → List ℕ
  | 0, _, _ => []
  | bits + 1, i, mask =>
    if mask = 0 then []
    else if mask % 2 = 1 then i :: usedList bits (i + 1) (mask / 2)
    else usedList bits (i + 1) (mask / 2)

/-- `svUsedList` -/
def svUsedList (data : EngData) : List ℕ := usedList 32 1 data.gpsUsedMask

/-- `gloUsedList`: the satellites of GLONASS start behind 64. -/
def gloUsedList (data : EngData) : List ℕ := (usedList 32 1 data.gloUsedMask).map (· + 64)

/-- `fixType` -/
def fixType (usedCount : ℕ) : Char :=
  if usedCount = 0 then '1' else if usedCount ≤ 3 then '2' else '3'

/-- The three values are known from the satellite report. -/
def dopCached (data : EngData) : Bool := 0 < data.pdop && 0 < data.hdop && 0 < data.vdop

/-- `pdop`, `hdop` and `vdop`, if they are known. -/
def dopPiece (data : EngData) (ext : LocationExtended) : List Char :=
  if ext.hasDop then oneDigit ext.pdop ++ ',' :: oneDigit ext.hdop ++ ',' :: oneDigit ext.vdop
  else if dopCached data then
    oneDigit data.pdop ++ ',' :: oneDigit data.hdop ++ ',' :: oneDigit data.vdop
  else [',', ',']

/-- `$GPVTG` and `$GPRMC`: the mode. -/
def modePiece (standalone : Bool) (location : GpsLocation) : List Char :=
  if !location.hasLatLong then ['N'] else if standalone then ['A'] else ['D']

/-- `$GPRMC` and `$GPGGA`: latitude and longitude. -/
def coordinates (latitude longitude : ℚ) : List Char :=
  let latHemisphere := if latitude > 0 then 'N' else 'S'
  let latitude := if latitude > 0 then latitude else latitude * -1
  let lonHemisphere := if longitude < 0 then 'W' else 'E'
  let longitude := if longitude < 0 then longitude * -1 else longitude
  let latMinutes := fmod (latitude * 60) 60
  let lonMinutes := fmod (longitude * 60) 60
  paddedInt 2 (toUInt8 ⌊latitude⌋) ++ fixed 9 6 latMinutes ++ ',' :: latHemisphere ::
    ',' :: paddedInt 3 (toUInt8 ⌊longitude⌋) ++ fixed 9 6 lonMinutes ++ ',' :: lonHemisphere ::
    [',']

/-- The latitude and longitude, if they are known. -/
def coordinatesPiece (location : GpsLocation) : List Char :=
  if location.hasLatLong then coordinates location.latitude location.longitude
  else [',', ',', ',', ',']

/-- The `magTrack` of the inner block. -/
def innerMagTrack (location : GpsLocation) (ext : LocationExtended) : ℚ :=
  let magTrack := location.bearing - ext.magneticDeviation
  if magTrack < 0 then magTrack + 360
  else if magTrack > 360 then magTrack - 360
  else magTrack

/-- The block: its own variables end with it, and the `magTrack` around it is kept. -/
def magDevBlock (location : GpsLocation) (ext : LocationExtended) (magTrack : ℚ) : ℚ :=
  let _inner := innerMagTrack location ext
  magTrack

/-- The `magTrack` that is printed. -/
def magTrack (location : GpsLocation) (ext : LocationExtended) : ℚ :=
  let magTrack := location.bearing
  if ext.hasMagDev then magDevBlock location ext magTrack else magTrack

/-- `$GPVTG`: the true and the magnetic track, if the bearing is known. -/
def trackPiece (location : GpsLocation) (ext : LocationExtended) : List Char :=
  if location.hasBearing then
    "$GPVTG,".toList ++ oneDigit location.bearing ++ ",T,".toList ++
      oneDigit (magTrack location ext) ++ ",M,".toList
  else "$GPVTG,,T,,M,".toList

/-- `speedKnots` -/
def speedKnots (location : GpsLocation) : ℚ := location.speed * (3600 / 1852)

/-- `$GPVTG`: the speed in both units, if it is known. -/
def speedPiece (location : GpsLocation) : List Char :=
  if location.hasSpeed then
    oneDigit (speedKnots location) ++ ",N,".toList ++ oneDigit (location.speed * (36 / 10)) ++
      ",K,".toList
  else ",N,,K,".toList

/-- `$GPRMC`: the magnetic variation, if it is known. -/
def variationPiece (ext : LocationExtended) : List Char :=
  if ext.hasMagDev then
    if ext.magneticDeviation < 0 then oneDigit (ext.magneticDeviation * -1) ++ ",W,".toList
    else oneDigit ext.magneticDeviation ++ ",E,".toList
  else [',', ',']

/-- `$GPGGA`: the quality of the fix, the satellites that were used and `hdop`. -/
def qualityPiece (standalone : Bool) (data : EngData) (location : GpsLocation)
    (ext : LocationExtended) : List Char :=
  let gpsQuality := if !location.hasLatLong then '0' else if standalone then '1' else '2'
  gpsQuality :: ',' :: paddedInt 2 (svUsedList data).length ++
    (if ext.hasDop then ',' :: oneDigit ext.hdop ++ [',']
    else if dopCached data then ',' :: oneDigit data.hdop ++ [',']
    else [',', ','])

/-- `$GPGGA`: the altitude above the sea, if it is known. -/
def altitudePiece (ext : LocationExtended) : List Char :=
  if ext.hasAltitudeMeanSeaLevel then oneDigit ext.altitudeMeanSeaLevel ++ ",M,".toList
  else [',', ',']

/-- `$GPGGA`: how far the sea is above the ellipsoid, if it is known. -/
def separationPiece (location : GpsLocation) (ext : LocationExtended) : List Char :=
  if location.hasAltitude && ext.hasAltitudeMeanSeaLevel then
    oneDigit (location.altitude - ext.altitudeMeanSeaLevel) ++ ",M,,".toList
  else ",,,".toList

/-! ## Sentences -/

/-- Twelve places for the satellites that were used. -/
def printUsed : ℕ → List ℕ → List Char → Option (List Char)
  | 0, _, sentence => some sentence
  | places + 1, [], sentence => do
    let sentence ← print [','] sentence
    printUsed places [] sentence
  | places + 1, sv :: svs, sentence => do
    let sentence ← print (paddedInt 2 sv ++ [',']) sentence
    printUsed places svs sentence

/-- `$GPGSA` and `$GNGSA`, without the checksum; `none` when a piece does not fit. -/
def gsa (talker : List Char) (used : List ℕ) (data : EngData) (ext : LocationExtended) :
    Option (List Char) := do
  let sentence ← print (talker ++ ",A,".toList ++ [fixType used.length, ',']) []
  let sentence ← printUsed 12 used sentence
  return printLast (dopPiece data ext) sentence

/-- `$GPGSA` -/
def gpgsa (data : EngData) (ext : LocationExtended) : Option (List Char) :=
  gsa "$GPGSA".toList (svUsedList data) data ext

/-- `$GNGSA` -/
def gngsa (data : EngData) (ext : LocationExtended) : Option (List Char) :=
  gsa "$GNGSA".toList (gloUsedList data) data ext

/-- `$GPVTG` -/
def gpvtg (standalone : Bool) (location : GpsLocation) (ext : LocationExtended) :
    Option (List Char) := do
  let sentence ← print (trackPiece location ext) []
  let sentence ← print (speedPiece location) sentence
  return printLast (modePiece standalone location) sentence

/-- `$GPRMC` -/
def gprmc (standalone : Bool) (pTm : Tm) (location : GpsLocation) (ext : LocationExtended) :
    Option (List Char) := do
  let sentence ← print ("$GPRMC,".toList ++ timePiece pTm location.timestamp ++ ",A,".toList) []
  let sentence ← print (coordinatesPiece location) sentence
  let sentence ← print (if location.hasSpeed then oneDigit (speedKnots location) ++ [',']
    else [',']) sentence
  let sentence ← print (if location.hasBearing then oneDigit location.bearing ++ [',']
    else [',']) sentence
  let sentence ← print (datePiece pTm) sentence
  let sentence ← print (variationPiece ext) sentence
  return printLast (modePiece standalone location) sentence

/-- `$GPGGA` -/
def gpgga (standalone : Bool) (pTm : Tm) (data : EngData) (location : GpsLocation)
    (ext : LocationExtended) : Option (List Char) := do
  let sentence ← print ("$GPGGA,".toList ++ timePiece pTm location.timestamp ++ [',']) []
  let sentence ← print (coordinatesPiece location) sentence
  let sentence ← print (qualityPiece standalone data location ext) sentence
  let sentence ← print (altitudePiece ext) sentence
  return printLast (separationPiece location ext) sentence

/-- The sentences that are sent until one is given up, and whether none was. -/
def sendAll : List (Option (List Char)) → List (List Char) × Bool
  | [] => ([], true)
  | none :: _ => ([], false)
  | some sentence :: sentences =>
    let (sent, ok) := sendAll sentences
    (putChecksum sentence :: sent, ok)

/-- The sentences for a fix that is not the final one. -/
def blankSentences : List (List Char) :=
  ["$GPGSA,A,1,,,,,,,,,,,,,,,", "$GNGSA,A,1,,,,,,,,,,,,,,,", "$GPVTG,,T,,M,,N,,K,N",
    "$GPRMC,,V,,,,,,,,,,N", "$GPGGA,,,,,,0,,,,,,,,"].map String.toList

/-- `loc_eng_nmea_generate_pos`: what is cached, and the sentences that are sent; `standalone`
says that the position mode is `LOC_POSITION_MODE_STANDALONE`. -/
def generatePos (gmtime : ℤ → Option Tm) (standalone : Bool) (data : EngData)
    (location : GpsLocation) (ext : LocationExtended) (generateNmea : Bool) :
    EngData × List (List Char) :=
  match gmtime (location.timestamp.tdiv 1000) with
  | none => (data, [])
  | some pTm =>
    if generateNmea then
      let (sent, ok) := sendAll [gpgsa data ext, gngsa data ext, gpvtg standalone location ext,
        gprmc standalone pTm location ext, gpgga standalone pTm data location ext]
      ({ gpsUsedMask := 0
         gloUsedMask := if (gpgsa data ext).isSome then 0 else data.gloUsedMask
         pdop := if ok then 0 else data.pdop
         hdop := if ok then 0 else data.hdop
         vdop := if ok then 0 else data.vdop }, sent)
    else ({ data with pdop := 0, hdop := 0, vdop := 0 }, blankSentences.map putChecksum)

/-! ## The magnetic track -/

/-- An angle from 0 up to 360. -/
def normalised (x : ℚ) : ℚ := x - 360 * ⌊x / 360⌋

/-- A bearing is left as it is. -/
theorem normalised_eq_self {x : ℚ} (hpos : 0 ≤ x) (hlt : x < 360) : normalised x = x := by
  have hfloor : ⌊x / 360⌋ = 0 := by
    rw [Int.floor_eq_zero_iff]
    constructor
    · positivity
    · rw [div_lt_one (by norm_num)]
      exact hlt
  rw [normalised, hfloor, Int.cast_zero, mul_zero, sub_zero]

/-- A turn by less than half a circle is seen in the angle. -/
theorem normalised_sub_eq_self {x y : ℚ} (hpos : 0 ≤ x) (hlt : x < 360) (hlow : -180 < y)
    (hhigh : y < 180) : x = normalised (x - y) ↔ y = 0 := by
  constructor
  · intro h
    rw [normalised] at h
    generalize ⌊(x - y) / 360⌋ = k at h
    -- the turn is a multiple of the circle, and less than one
    have hy : y = -360 * k := by linarith
    have hk : k = 0 := by
      have hlt : (-1 : ℚ) < k := by linarith
      have hgt : (k : ℚ) < 1 := by linarith
      have hlt' : -1 < k := by exact_mod_cast hlt
      have hgt' : k < 1 := by exact_mod_cast hgt
      omega
    rw [hy, hk, Int.cast_zero, mul_zero]
  · rintro rfl
    rw [sub_zero]
    exact (normalised_eq_self hpos hlt).symm

/-- **The magnetic track** that is printed is the true track less the deviation exactly when there
is no deviation: it is always the true track. -/
theorem magTrack_iff (location : GpsLocation) (ext : LocationExtended)
    (hbearing : 0 ≤ location.bearing ∧ location.bearing < 360)
    (hdeviation : -180 < ext.magneticDeviation ∧ ext.magneticDeviation < 180) :
    ((ext.hasMagDev = true → magTrack location ext =
          normalised (location.bearing - ext.magneticDeviation)) ∧
        (ext.hasMagDev = false → magTrack location ext = location.bearing)) ↔
      (ext.hasMagDev = true → ext.magneticDeviation = 0) := by
  have htrack : magTrack location ext = location.bearing := ite_self _
  have hiff := normalised_sub_eq_self hbearing.1 hbearing.2 hdeviation.1 hdeviation.2
  rw [htrack, hiff]
  exact and_iff_left fun _ => rfl

/-- A fix to the east with a deviation of 20 degrees. -/
def eastbound : GpsLocation where
  hasLatLong := true
  hasAltitude := false
  hasSpeed := true
  hasBearing := true
  latitude := 52
  longitude := 13
  altitude := 0
  speed := 10
  bearing := 90
  timestamp := 0

/-- A deviation of some degrees. -/
def deviating (magneticDeviation : ℚ) : LocationExtended :=
  ⟨false, false, true, 0, 0, 0, 0, magneticDeviation⟩

/-- Without a deviation both tracks are the same. -/
theorem magTrack_iff_zero :
    magTrack eastbound (deviating 0) = normalised (eastbound.bearing - 0) := by
  have h := (magTrack_iff eastbound (deviating 0) (by decide +kernel) (by decide +kernel)).mpr
    fun _ => rfl
  exact h.1 rfl

/-- With one of 20 degrees the printed track is 90 degrees, not 70. -/
theorem magTrack_wrong :
    (0 ≤ eastbound.bearing ∧ eastbound.bearing < 360) ∧
      gpvtg true eastbound (deviating 20) = some "$GPVTG,90.0,T,90.0,M,19.4,N,36.0,K,A".toList ∧
      ¬ (((deviating 20).hasMagDev = true → magTrack eastbound (deviating 20) =
          normalised (eastbound.bearing - (deviating 20).magneticDeviation)) ∧
        ((deviating 20).hasMagDev = false →
          magTrack eastbound (deviating 20) = eastbound.bearing)) := by
  refine ⟨by decide +kernel, by decide +kernel, ?_⟩
  rintro ⟨h, -⟩
  exact absurd (h rfl) (by decide +kernel)

end OppoA37.Nmea
