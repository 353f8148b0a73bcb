import SsaLens.Url
import SsaLens.Url.Host

/-! # Reading URLs

Blanks around a URL and breaks inside it do not count. Schemes fall into three kinds: files, those
that know hosts, and all others.
-/

namespace SsaLens.Url

/-- What a scheme says about the rest of a URL. -/
inductive Kind where
  | file
  | special
  | plain
  deriving DecidableEq, Repr

def defaultPort? : String → Option Nat
  | "http" | "ws" => some 80
  | "https" | "wss" => some 443
  | "ftp" => some 21
  | _ => none

def Kind.ofScheme (scheme : String) : Kind :=
  if scheme = "file" then file else if (defaultPort? scheme).isSome then special else plain

/-- The text without the blanks around it. -/
def inner (text : String) : List Char :=
  let isOuter (c : Char) : Bool := c.toNat ≤ 0x20
  ((text.toList.dropWhile isOuter).reverse.dropWhile isOuter).reverse

/-- A line break or tab inside a URL. -/
def isBreak (c : Char) : Bool := c = '\t' || c = '\n' || c = '\r'

/-- The characters of a text that count. -/
def counting (text : List Char) : List Char := text.filter (!isBreak ·)

/-- The scheme before the first colon, in lower case, and what follows the colon. -/
def scheme? (text : List Char) : Option (String × List Char) :=
  let name := text.takeWhile (· ≠ ':')
  let isLetter (c : Char) := c.isAlphanum || c = '+' || c = '-' || c = '.'
  if name.head?.any Char.isAlpha ∧ name.all isLetter ∧ name.length < text.length then
    some (String.ofList (name.map Char.toLower), text.drop (name.length + 1))
  else none

def Kind.isSlash (kind : Kind) (c : Char) : Bool := c = '/' || (kind ≠ plain && c = '\\')

def isTail (c : Char) : Bool := c = '?' || c = '#'

/-! ## Paths -/

/-- The segments between slashes, as the first one and the others. -/
def cut (kind : Kind) : List Char → List Char × List (List Char)
  | [] => ([], [])
  | c :: rest =>
      if kind.isSlash c then ([], (cut kind rest).1 :: (cut kind rest).2)
      else (c :: (cut kind rest).1, (cut kind rest).2)

/-- The two forms of a dot in a segment. -/
def dots : List Char → Option Nat
  | [] => some 0
  | '.' :: rest => (dots rest).map (· + 1)
  | '%' :: '2' :: 'e' :: rest | '%' :: '2' :: 'E' :: rest => (dots rest).map (· + 1)
  | _ => none

/-- A drive letter: a letter and a colon or a bar, which is another way to write the colon. -/
def drive? : List Char → Option (List Char)
  | [letter, mark] => if letter.isAlpha ∧ (mark = ':' ∨ mark = '|') then some [letter, ':'] else none
  | _ => none

/-- A segment that is a drive letter, or begins with one and a backslash. -/
def holdsDrive : List Char → Bool
  | letter :: mark :: rest => letter.isAlpha && (mark = ':' || mark = '|') && rest.head?.all (· = '\\')
  | _ => false

/-- A segment that begins with a drive letter and a break: the two parts. -/
def brokenDrive? (segment : List Char) : Option (List Char × List Char) :=
  match segment.dropWhile isBreak with
  | letter :: rest =>
      match rest.dropWhile isBreak with
      | ':' :: after =>
          if letter.isAlpha ∧ after.head?.any isBreak ∧ counting after ≠ [] then
            some ([letter, ':'], counting after)
          else none
      | _ => none
  | [] => none

/-- The segments of a path that was followed so far, and whether it began with a drive letter that
takes the place of a host. -/
structure Trail where
  segments : List (List Char) := []
  hasDrive : Bool := false

namespace Trail

def add (trail : Trail) (segment : List Char) : Trail :=
  { trail with segments := trail.segments ++ [segment] }

/-- Go up one segment. A drive letter stays, in every scheme and at every place. -/
def up (trail : Trail) : Trail :=
  if trail.segments.getLast?.any Url.holdsDrive then trail
  else { trail with segments := trail.segments.dropLast }

/-- The first segment of a file path. -/
def start (segment : List Char) : Trail :=
  match drive? (counting segment), brokenDrive? segment with
  | some drive, _ => ⟨[drive], true⟩
  | none, some (drive, rest) => ⟨[drive, Percent.encode Percent.path rest], false⟩
  | none, none => ⟨[Percent.encode Percent.path (counting segment)], false⟩

/-- Follow a path segment by segment. A dot or two at the end leave an empty segment. -/
def follow (kind : Kind) (trail : Trail) : List (List Char) → Trail
  | [] => trail
  | segment :: rest =>
      let encoded := Percent.encode Percent.path (counting segment)
      let close (trail : Trail) : Trail := if rest = [] then trail.add [] else trail
      let next := match dots encoded with
        | some 1 => close trail
        | some 2 => close trail.up
        | _ => if kind = .file ∧ trail.segments = [] then start segment else trail.add encoded
      follow kind next rest

end Trail

/-- The segments of a text that begins with a slash or does not. -/
def pieces (kind : Kind) (text : List Char) : List (List Char) :=
  let parts := cut kind text
  if text.head?.any kind.isSlash then parts.2 else parts.1 :: parts.2

/-- The segments of the path in a text. Only a path of a plain scheme may be empty. -/
def segments (kind : Kind) (text : List Char) : List (List Char) :=
  if text = [] then (if kind = .plain then [] else [[]])
  else (Trail.follow kind {} (pieces kind text)).segments

/-- Remove the slashes that a file path begins with, but one. -/
def collapse (path : List (List Char)) : List (List Char) :=
  match path.dropWhile (· = []) with
  | [] => [[]]
  | rest => rest

def joined (path : List (List Char)) : String :=
  String.ofList (path.flatMap fun segment => '/' :: segment)

/-! ## The rest -/

/-- The fragment after a hash sign. -/
def fragment? : List Char → Option String
  | '#' :: rest => some (String.ofList (Percent.encode Percent.fragment rest))
  | _ => none

/-- Complete a URL with its query and fragment. -/
def withTail (kind : Kind) (scheme : String) (authority : Option (String × String × String))
    (path : String) (tail : List Char) : Url :=
  match tail with
  | '?' :: rest =>
      let reserved := if kind = .plain then Percent.query else Percent.specialQuery
      let query := Percent.encode reserved (rest.takeWhile (· ≠ '#'))
      ⟨scheme, authority, path, some (String.ofList query), fragment? (rest.dropWhile (· ≠ '#'))⟩
  | _ => ⟨scheme, authority, path, none, fragment? tail⟩

/-- The text before the last at sign, if there is one, and the text after it. -/
def atSign (text : List Char) : Option (List Char) × List Char :=
  let after := (text.reverse.takeWhile (· ≠ '@')).reverse
  if after.length < text.length then (some (text.take (text.length - after.length - 1)), after)
  else (none, text)

/-- The user and the password with the at sign; what is empty is left out. -/
def user (text : List Char) : List Char :=
  let name := Percent.encode Percent.userinfo (text.takeWhile (· ≠ ':'))
  let password := Percent.encode Percent.userinfo ((text.dropWhile (· ≠ ':')).drop 1)
  if name = [] ∧ password = [] then []
  else if password = [] then name ++ ['@']
  else name ++ ':' :: password ++ ['@']

/-- The host before a colon outside brackets, and the rest from the colon on. -/
def hostPart (inside : Bool) : List Char → List Char × List Char
  | [] => ([], [])
  | c :: rest =>
      if c = ':' ∧ ¬inside then ([], c :: rest)
      else
        let next := hostPart (c = '[' || (inside && c ≠ ']')) rest
        (c :: next.1, next.2)

/-- The port after a colon, where that of the scheme is left out, and what follows its digits. -/
def port? (scheme : String) : List Char → Option (String × List Char)
  | ':' :: text =>
      let digits := text.takeWhile Char.isDigit
      let rest := text.dropWhile Char.isDigit
      if rest ≠ [] ∧ rest.head? ≠ some '\\' then none
      else if digits = [] then some ("", rest)
      else do
        let port ← Text.readNat? digits
        if 65535 < port then none
        else if defaultPort? scheme = some port then some ("", rest)
        else some (":" ++ Text.decimal port, rest)
  | _ => some ("", [])

/-- A URL with an authority. -/
def ofAuthority? (kind : Kind) (scheme : String) (text : List Char) : Option Url := do
  let isEnd (c : Char) := kind.isSlash c || isTail c
  let whole := text.takeWhile (!isEnd ·)
  let rest := text.dropWhile (!isEnd ·)
  let (before, after) := atSign whole
  let userText := user (before.getD [])
  let (hostText, portText) := hostPart false after
  if before = some [] ∧ after = [] ∧ rest ≠ [] then none
  else if hostText = [] ∧ (kind ≠ .plain ∨ portText ≠ [] ∨ userText ≠ []) then none
  else do
    let host ← if kind = .plain then Host.opaqueOfText? hostText else Host.ofText? hostText
    let (port, afterPort) ← port? scheme portText
    let path := joined (segments kind (afterPort ++ rest.takeWhile (!isTail ·)))
    pure (withTail kind scheme (some (String.ofList userText, String.ofList host, port)) path
      (rest.dropWhile (!isTail ·)))

/-- The name of a host after two slashes and what follows it. There is none where a drive letter
stands. -/
def fileHost? (text : List Char) : Option (List Char × List Char) :=
  match text.dropWhile isBreak with
  | a :: rest =>
      match rest.dropWhile isBreak with
      | b :: rest =>
          if Kind.file.isSlash a ∧ Kind.file.isSlash b then
            let isEnd (c : Char) := Kind.file.isSlash c || isTail c
            let name := counting (rest.takeWhile (!isEnd ·))
            if (drive? name).isSome then some ([], rest) else some (name, rest.dropWhile (!isEnd ·))
          else none
      | [] => none
  | [] => none

/-- The URL of a file: a host may stand after two slashes. This host is left out, and so is the
host of a path with a drive letter. Where two slashes stand and no host, the path counts as begun,
and a drive letter at its front is taken as it is. -/
def ofFile? (text : List Char) : Option Url := do
  let (hostText, rest) := (fileHost? text).getD ([], text)
  let named ← if hostText = [] then some [] else Host.ofText? hostText
  let host := if named = "localhost".toList then [] else named
  let isBegun := (fileHost? text).isSome && host = [] && rest.head?.any Kind.file.isSlash
  let written := (rest.takeWhile (!isTail ·)).dropWhile isBreak
  let trail := Trail.follow .file { segments := if isBegun then [[]] else [] } (pieces .file written)
  pure (withTail .file "file" (some ("", if trail.hasDrive then "" else String.ofList host, ""))
    (joined (collapse trail.segments)) (counting (rest.dropWhile (!isTail ·))))

/-- The URL that a text holds. -/
def parse? (text : String) : Option Url := do
  let whole := inner text
  let (scheme, rest) ← scheme? (counting whole)
  match Kind.ofScheme scheme, rest with
  | .file, _ => ofFile? ((whole.dropWhile (· ≠ ':')).drop 1)
  | .special, rest => ofAuthority? .special scheme (rest.dropWhile Kind.special.isSlash)
  | .plain, '/' :: '/' :: rest => ofAuthority? .plain scheme rest
  | .plain, rest =>
      let path := rest.takeWhile (!isTail ·)
      let written := if path.head? = some '/' then joined (segments .plain path)
        else String.ofList (Percent.encode [] path)
      pure (withTail .plain scheme none written (rest.dropWhile (!isTail ·)))

end SsaLens.Url
