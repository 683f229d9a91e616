/-!
# Encodings

Bytes and the texts they stand for. Decoding is strict: bytes that stand for no character are an error.
Texts that are read have every kind of line break turned into a line feed.
-/

namespace Stencil

/-- The encodings that texts are read and written with. -/
inductive Encoding where
  | utf8
  /-- UTF-8 that may begin with a mark. -/
  | utf8Marked
  | ascii
  | latin1
  | windows1252
  /-- UTF-16 whose byte order is told by a mark at the beginning. -/
  | utf16
  | utf16Little
  | utf16Big
  deriving DecidableEq, Inhabited, Repr

/-- Why bytes cannot be decoded. -/
inductive DecodeError where
  /-- Bytes that stand for no character. -/
  | invalid
  /-- The mark of the byte order is missing. -/
  | noByteOrder
  deriving DecidableEq, Repr

namespace Encoding

/-- A name with hyphens and spaces as underscores and letters in lower case. -/
def normalName (s : String) : String :=
  String.ofList (s.toList.map fun c =>
    if c == '-' || c == ' ' || c == '.' then '_'
    else if 'A' ≤ c && c ≤ 'Z' then Char.ofNat (c.toNat + 32)
    else c)

/-- The encoding with a given name. -/
def ofName? (s : String) : Option Encoding :=
  let n := normalName s
  if ["utf_8", "utf8", "u8", "utf", "cp65001"].contains n then some utf8
  else if ["utf_8_sig", "utf8_sig"].contains n then some utf8Marked
  else if ["ascii", "us_ascii", "646", "us", "iso646_us", "ansi_x3_4_1968", "ansi_x3_4_1986"].contains n then
    some ascii
  else if ["latin_1", "latin1", "iso_8859_1", "iso8859_1", "8859", "cp819", "latin", "l1",
      "iso8859", "iso_8859_1_1987"].contains n then some latin1
  else if ["cp1252", "windows_1252", "1252"].contains n then some windows1252
  else if ["utf_16", "utf16", "u16"].contains n then some utf16
  else if ["utf_16_le", "utf_16le", "utf16_le"].contains n then some utf16Little
  else if ["utf_16_be", "utf_16be", "utf16_be"].contains n then some utf16Big
  else none

/-- The characters of the bytes from 128 to 159 in the Windows code page; zero where there is none. -/
def windowsHigh : List Nat :=
  [0x20AC, 0, 0x201A, 0x0192, 0x201E, 0x2026, 0x2020, 0x2021, 0x02C6, 0x2030, 0x0160, 0x2039, 0x0152,
    0, 0x017D, 0, 0, 0x2018, 0x2019, 0x201C, 0x201D, 0x2022, 0x2013, 0x2014, 0x02DC, 0x2122, 0x0161,
    0x203A, 0x0153, 0, 0x017E, 0x0178]

/-- The character of a byte in the Windows code page. -/
def windowsChar? (b : Nat) : Option Char :=
  if b < 0x80 || 0xA0 ≤ b then some (Char.ofNat b)
  else match windowsHigh[b - 0x80]? with
    | some 0 => none
    | some n => some (Char.ofNat n)
    | none => none

/-- A byte that continues a character. -/
def continuation? (b : UInt8) : Option Nat :=
  if 0x80 ≤ b.toNat && b.toNat < 0xC0 then some (b.toNat - 0x80) else none

/-- The characters of bytes in UTF-8; overlong forms and surrogates stand for none. -/
def decodeUtf8 : List UInt8 → Option (List Char)
  | [] => some []
  | a :: rest =>
    if a.toNat < 0x80 then (decodeUtf8 rest).map (Char.ofNat a.toNat :: ·)
    else if a.toNat < 0xC2 then none
    else if a.toNat < 0xE0 then
      match rest with
      | b :: rest => do
        let n := (a.toNat - 0xC0) * 64 + (← continuation? b)
        return Char.ofNat n :: (← decodeUtf8 rest)
      | [] => none
    else if a.toNat < 0xF0 then
      match rest with
      | b :: c :: rest => do
        let n := ((a.toNat - 0xE0) * 64 + (← continuation? b)) * 64 + (← continuation? c)
        if n < 0x800 || (0xD800 ≤ n && n < 0xE000) then none
        else return Char.ofNat n :: (← decodeUtf8 rest)
      | _ => none
    else if a.toNat < 0xF5 then
      match rest with
      | b :: c :: d :: rest => do
        let n := (((a.toNat - 0xF0) * 64 + (← continuation? b)) * 64 + (← continuation? c)) * 64 +
          (← continuation? d)
        if n < 0x10000 || 0x110000 ≤ n then none
        else return Char.ofNat n :: (← decodeUtf8 rest)
      | _ => none
    else none

/-- The units of sixteen bits that bytes make; `none` when one byte is left over. -/
def units (big : Bool) : List UInt8 → Option (List Nat)
  | [] => some []
  | [_] => none
  | a :: b :: rest =>
    let n := if big then a.toNat * 256 + b.toNat else b.toNat * 256 + a.toNat
    (units big rest).map (n :: ·)

/-- The characters of units of sixteen bits; half a pair stands for none. -/
def ofUnits : List Nat → Option (List Char)
  | [] => some []
  | a :: rest =>
    if 0xD800 ≤ a && a < 0xDC00 then
      match rest with
      | b :: rest =>
        if 0xDC00 ≤ b && b < 0xE000 then
          (ofUnits rest).map (Char.ofNat (0x10000 + (a - 0xD800) * 0x400 + (b - 0xDC00)) :: ·)
        else none
      | [] => none
    else if 0xDC00 ≤ a && a < 0xE000 then none
    else (ofUnits rest).map (Char.ofNat a :: ·)

/-- The characters that bytes stand for. -/
def decode (e : Encoding) (bytes : List UInt8) : Except DecodeError (List Char) :=
  let strict (r : Option (List Char)) : Except DecodeError (List Char) :=
    match r with
    | some cs => .ok cs
    | none => .error .invalid
  match e with
  | utf8 => strict (decodeUtf8 bytes)
  | utf8Marked =>
    strict (decodeUtf8 (if bytes.take 3 == [0xEF, 0xBB, 0xBF] then bytes.drop 3 else bytes))
  | ascii =>
    if bytes.all (·.toNat < 0x80) then .ok (bytes.map fun b => Char.ofNat b.toNat) else .error .invalid
  | latin1 => .ok (bytes.map fun b => Char.ofNat b.toNat)
  | windows1252 => strict (bytes.mapM fun b => windowsChar? b.toNat)
  | utf16 =>
    match bytes with
    | 0xFF :: 0xFE :: rest => strict ((units false rest).bind ofUnits)
    | 0xFE :: 0xFF :: rest => strict ((units true rest).bind ofUnits)
    | [] => .ok []
    | [_] => .error .invalid
    | _ => .error .noByteOrder
  | utf16Little => strict ((units false bytes).bind ofUnits)
  | utf16Big => strict ((units true bytes).bind ofUnits)

/-- A number below 256 as a byte. -/
def byte (n : Nat) : UInt8 := UInt8.ofNat n

/-- The bytes of a character in UTF-8. -/
def utf8Bytes (c : Char) : List UInt8 :=
  let n := c.toNat
  if n < 0x80 then [byte n]
  else if n < 0x800 then [byte (0xC0 + n / 64), byte (0x80 + n % 64)]
  else if n < 0x10000 then [byte (0xE0 + n / 4096), byte (0x80 + n / 64 % 64), byte (0x80 + n % 64)]
  else
    [byte (0xF0 + n / 262144), byte (0x80 + n / 4096 % 64), byte (0x80 + n / 64 % 64),
      byte (0x80 + n % 64)]

/-- The units of sixteen bits of a character. -/
def unitsOf (c : Char) : List Nat :=
  let n := c.toNat
  if n < 0x10000 then [n] else [0xD800 + (n - 0x10000) / 0x400, 0xDC00 + (n - 0x10000) % 0x400]

/-- The bytes of a character in UTF-16. -/
def utf16Bytes (big : Bool) (c : Char) : List UInt8 :=
  (unitsOf c).flatMap fun u =>
    if big then [byte (u / 256), byte (u % 256)] else [byte (u % 256), byte (u / 256)]

/-- The byte of a character in the Windows code page. -/
def windowsByte? (c : Char) : Option UInt8 :=
  ((List.range 256).find? fun b => windowsChar? b == some c).map byte

/-- The bytes that stand for characters; `none` when a character has none. -/
def encode (e : Encoding) (s : List Char) : Option (List UInt8) :=
  match e with
  | utf8 => some (s.flatMap utf8Bytes)
  | utf8Marked => some ([0xEF, 0xBB, 0xBF] ++ s.flatMap utf8Bytes)
  | ascii => s.mapM fun c => if c.toNat < 0x80 then some (byte c.toNat) else none
  | latin1 => s.mapM fun c => if c.toNat < 0x100 then some (byte c.toNat) else none
  | windows1252 => s.mapM windowsByte?
  | utf16 => some ([0xFF, 0xFE] ++ s.flatMap (utf16Bytes false))
  | utf16Little => some (s.flatMap (utf16Bytes false))
  | utf16Big => some (s.flatMap (utf16Bytes true))

/-- A text with line feeds for all kinds of line breaks. -/
def unifyBreaks : List Char → List Char
  | [] => []
  | '\r' :: '\n' :: cs => '\n' :: unifyBreaks cs
  | '\r' :: cs => '\n' :: unifyBreaks cs
  | c :: cs => c :: unifyBreaks cs

end Encoding

end Stencil
