import AccessPolicy.Yaml.Scanner.State
import AccessPolicy.Text.Utf8
/-!
# Scanning anchors, tags and directives

* An anchor `&name` or alias `*name` has a name of letters, digits, `_` and `-`, followed by a
  blank or one of `?:,]}%@` and a backquote.
* A tag is `!<uri>`, `!handle!suffix`, `!suffix` or `!`. Its characters are those of URIs, and
  `%XX` escapes spell the UTF-8 bytes of a character.
* A directive is `%YAML major.minor` or `%TAG handle prefix` at the start of a line, up to an
  optional comment.
-/

namespace AccessPolicy.Yaml

def scanAnchor (isAnchor : Bool) : ScanM Token := do
  let startMark ← currentMark
  skipChar
  let name ← readWhile isWordChar "" (← loopBudget)
  let stop ← currentMark
  let c ← peekChar
  if name.isEmpty ∨
      !(isBlankZ c ∨ c = '?' ∨ c = ':' ∨ c = ',' ∨ c = ']' ∨ c = '}' ∨ c = '%' ∨ c = '@' ∨
        c = '`') then
    scanError (if isAnchor then "while scanning an anchor" else "while scanning an alias")
      startMark "did not find expected alphabetic or numeric character"
  return ⟨if isAnchor then .anchor name else .aliasRef name, startMark, stop⟩

def tagError (directive : Bool) (startMark : Mark) (problem : String) : ScanM α :=
  scanError (if directive then "while parsing a %TAG directive" else "while parsing a tag")
    startMark problem

def scanTagHandle (directive : Bool) (startMark : Mark) : ScanM String := do
  if (← peekChar) ≠ '!' then tagError directive startMark "did not find expected '!'"
  skipChar
  let s ← readWhile isWordChar "!" (← loopBudget)
  if (← peekChar) = '!' then
    skipChar
    return s.push '!'
  if directive ∧ s ≠ "!" then tagError directive startMark "did not find expected '!'"
  return s

def isUriChar (verbatim : Bool) (c : Char) : Bool :=
  isWordChar c ∨ ";/?:@&=+$.%!~*'()".toList.contains c ∨
    (verbatim ∧ (c = ',' ∨ c = '[' ∨ c = ']'))

def leadWidth (b : Nat) : Nat :=
  if b < 0x80 then 1
  else if b / 32 = 6 then 2
  else if b / 16 = 14 then 3
  else if b / 8 = 30 then 4
  else 0

def uriEscapes (directive : Bool) (startMark : Mark) (bytes : List UInt8) (width : Option Nat) :
    Nat → ScanM (List UInt8)
  | 0 => pure bytes
  | fuel + 1 => do
    let s ← get
    let octet := match hexValue? (s.ahead 1), hexValue? (s.ahead 2) with
      | some h, some l => if s.ahead 0 = '%' then some (h * 16 + l) else none
      | _, _ => none
    match octet with
    | none => tagError directive startMark "did not find URI escaped octet"
    | some o =>
      let w ← match width with
        | none =>
          let w := leadWidth o
          if w = 0 then tagError directive startMark "found an incorrect leading UTF-8 octet"
          pure w
        | some w =>
          if o / 64 ≠ 2 then tagError directive startMark "found an incorrect trailing UTF-8 octet"
          pure w
      skipChar
      skipChar
      skipChar
      let bytes := bytes ++ [o.toUInt8]
      if w ≤ 1 then return bytes
      uriEscapes directive startMark bytes (some (w - 1)) fuel

def uriChars (verbatim directive : Bool) (startMark : Mark) (acc : String) (seen : Bool) :
    Nat → ScanM (String × Bool)
  | 0 => pure (acc, seen)
  | fuel + 1 => do
    let c ← peekChar
    if !isUriChar verbatim c then return (acc, seen)
    if c = '%' then
      let bytes ← uriEscapes directive startMark [] none 4
      uriChars verbatim directive startMark (acc ++ String.ofList (Utf8.decode bytes)) true fuel
    else
      skipChar
      uriChars verbatim directive startMark (acc.push c) true fuel

def scanTagUri (verbatim directive : Bool) (head : String) (startMark : Mark) : ScanM String := do
  let (uri, seen) ← uriChars verbatim directive startMark (head.drop 1).toString
    (!head.isEmpty) (← loopBudget)
  if !seen then tagError directive startMark "did not find expected tag URI"
  return uri

def scanTag : ScanM Token := do
  let startMark ← currentMark
  let (handle, suffix) ← do
    if (← peekChar 1) = '<' then
      skipChar
      skipChar
      let suffix ← scanTagUri true false "" startMark
      if (← peekChar) ≠ '>' then
        scanError "while scanning a tag" startMark "did not find the expected '>'"
      skipChar
      pure ("", suffix)
    else
      let handle ← scanTagHandle false startMark
      if handle.startsWith "!" ∧ handle.length > 1 ∧ handle.endsWith "!" then
        pure (handle, ← scanTagUri false false "" startMark)
      else
        let suffix ← scanTagUri false false handle startMark
        if suffix.isEmpty then pure ("", "!") else pure ("!", suffix)
  let c ← peekChar
  if !isBlankZ c then
    if (← get).flowLevel = 0 ∨ c ≠ ',' then
      scanError "while scanning a tag" startMark "did not find expected whitespace or line break"
  return ⟨.tag handle suffix, startMark, ← currentMark⟩

def versionNumber (startMark : Mark) : ScanM Nat := do
  let s ← get
  let digits := [s.ahead 0, s.ahead 1, s.ahead 2].takeWhile isDigitChar
  if digits.length > 2 then
    for _ in [0, 1] do skipChar
    scanError "while scanning a %YAML directive" startMark "found extremely long version number"
  if digits.isEmpty then
    scanError "while scanning a %YAML directive" startMark "did not find expected version number"
  for _ in digits do skipChar
  return digits.foldl (fun n c => n * 10 + (c.toNat - '0'.toNat)) 0

def scanDirective : ScanM Token := do
  let startMark ← currentMark
  skipChar
  let name ← readWhile isWordChar "" (← loopBudget)
  if name.isEmpty then
    scanError "while scanning a directive" startMark "could not find expected directive name"
  if !isBlankZ (← peekChar) then
    scanError "while scanning a directive" startMark "found unexpected non-alphabetical character"
  let kind ← do
    if name = "YAML" then
      skipWhile isBlank (← loopBudget)
      let major ← versionNumber startMark
      if (← peekChar) ≠ '.' then
        scanError "while scanning a %YAML directive" startMark
          "did not find expected digit or '.' character"
      skipChar
      let minor ← versionNumber startMark
      pure (TokenKind.versionDirective major minor)
    else if name = "TAG" then
      skipWhile isBlank (← loopBudget)
      let handle ← scanTagHandle true startMark
      if !isBlank (← peekChar) then
        scanError "while scanning a %TAG directive" startMark "did not find expected whitespace"
      skipWhile isBlank (← loopBudget)
      let pfx ← scanTagUri true true "" startMark
      if !isBlankZ (← peekChar) then
        scanError "while scanning a %TAG directive" startMark
          "did not find expected whitespace or line break"
      pure (TokenKind.tagDirective handle pfx)
    else scanError "while scanning a directive" startMark "found unknown directive name"
  let stop ← currentMark
  skipWhile isBlank (← loopBudget)
  if (← peekChar) = '#' then skipWhile (fun c => !isBreakZ c) (← loopBudget)
  if !isBreakZ (← peekChar) then
    scanError "while scanning a directive" startMark "did not find expected comment or line break"
  if isBreak (← peekChar) then skipLine
  return ⟨kind, startMark, stop⟩

end AccessPolicy.Yaml
