import OppoA37.Lib.Text

/-!
# NMEA sentences

A sentence is put together in a buffer, by one `snprintf` after the other. If a piece does not fit
the function gives up, and sends nothing more. A checksum goes to the end.
-/

namespace OppoA37.Nmea

open Text

/-- `NMEA_SENTENCE_MAX_LENGTH` -/
def maxLength : ℕ := 200

/-- `snprintf` behind what is there, when its length is checked. -/
def print (piece sentence : List Char) : Option (List Char) :=
  if piece.length ≥ maxLength - sentence.length then none else some (sentence ++ piece)

/-- `snprintf` behind what is there, when its length is not checked: what does not fit is cut
off. -/
def printLast (piece sentence : List Char) : List Char :=
  sentence ++ piece.take (maxLength - sentence.length - 1)

/-- The exclusive or of all bytes. -/
def checksum (cs : List Char) : ℕ := cs.foldl (fun sum c => sum ^^^ (c.toNat % 256)) 0

/-- `%02X` of a byte -/
def hexByte (n : ℕ) : List Char :=
  [(Nat.digitChar (n / 16 % 16)).toUpper, (Nat.digitChar (n % 16)).toUpper]

/-- `loc_eng_nmea_put_checksum`; the `$` does not count. -/
def putChecksum (sentence : List Char) : List Char :=
  printLast ('*' :: (hexByte (checksum sentence.tail) ++ ['\r', '\n'])) sentence

/-- The whole part of a number, as a conversion to an integer type keeps it. -/
def trunc (x : ℚ) : ℤ := if 0 ≤ x then ⌊x⌋ else ⌈x⌉

/-- What `loc_eng_data_s_type` caches from one report to the next. -/
structure EngData where
  /-- `gps_used_mask` -/
  gpsUsedMask : ℕ
  /-- `glo_used_mask` -/
  gloUsedMask : ℕ
  /-- `pdop` -/
  pdop : ℚ
  /-- `hdop` -/
  hdop : ℚ
  /-- `vdop` -/
  vdop : ℚ
  deriving DecidableEq, Repr

/-- What the functions use of a `GpsLocationExtended`. -/
structure LocationExtended where
  /-- `flags & GPS_LOCATION_EXTENDED_HAS_DOP` -/
  hasDop : Bool
  /-- `flags & GPS_LOCATION_EXTENDED_HAS_ALTITUDE_MEAN_SEA_LEVEL` -/
  hasAltitudeMeanSeaLevel : Bool
  /-- `flags & GPS_LOCATION_EXTENDED_HAS_MAG_DEV` -/
  hasMagDev : Bool
  /-- `altitudeMeanSeaLevel` -/
  altitudeMeanSeaLevel : ℚ
  /-- `pdop` -/
  pdop : ℚ
  /-- `hdop` -/
  hdop : ℚ
  /-- `vdop` -/
  vdop : ℚ
  /-- `magneticDeviation` -/
  magneticDeviation : ℚ
  deriving DecidableEq, Repr

/-- A piece that is short enough is printed. -/
theorem print_eq {piece sentence : List Char}
    (h : piece.length < maxLength - sentence.length) :
    print piece sentence = some (sentence ++ piece) :=
  if_neg (not_le.mpr h)

end OppoA37.Nmea
