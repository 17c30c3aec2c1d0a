import Unclosed.Text.Characters

/-!
# Texts

Texts are cut at a separator and put together again, trimmed, quoted for messages and filled into
templates.
-/

namespace Unclosed

namespace Text

/-! ## Pieces -/

/-- The pieces between the separators; an empty text has one empty piece. -/
def pieces (sep : Char) : List Char → List (List Char)
  | [] => [[]]
  | c :: cs =>
    if c = sep then [] :: pieces sep cs
    else match pieces sep cs with
      | [] => [[c]]
      | p :: ps => (c :: p) :: ps

def split (sep : Char) (s : String) : List String :=
  (pieces sep s.toList).map String.ofList

def join (sep : Char) (texts : List String) : String :=
  String.ofList (List.intercalate [sep] (texts.map String.toList))

/-- The characters without the blanks at either end. -/
def trimBlanks (cs : List Char) : List Char :=
  (((cs.dropWhile isBlank).reverse).dropWhile isBlank).reverse

def trim (s : String) : String :=
  String.ofList (trimBlanks s.toList)

/-! ## Quoted texts -/

/-- The number in hexadecimal with exactly `width` lower case digits. -/
def hexDigits : (width : Nat) → Nat → List Char
  | 0, _ => []
  | w + 1, n => hexDigits w (n / 16) ++ [Nat.digitChar (n % 16)]

def escapeLetter? (code : Nat) : Option Char :=
  match code with
  | 0x07 => some 'a'
  | 0x08 => some 'b'
  | 0x09 => some 't'
  | 0x0A => some 'n'
  | 0x0B => some 'v'
  | 0x0C => some 'f'
  | 0x0D => some 'r'
  | _ => none

def quoteChar (c : Char) : List Char :=
  if c = '"' || c = '\\' then ['\\', c]
  else if isPrintable c then [c]
  else match escapeLetter? c.toNat with
    | some letter => ['\\', letter]
    | none =>
      if c.toNat < 0x80 then '\\' :: 'x' :: hexDigits 2 c.toNat
      else if c.toNat < 0x10000 then '\\' :: 'u' :: hexDigits 4 c.toNat
      else '\\' :: 'U' :: hexDigits 8 c.toNat

def quote (s : String) : String :=
  String.ofList ('"' :: s.toList.flatMap quoteChar ++ ['"'])

/-!
## Message templates

In a template a percent sign and a letter stand for the next argument, and two percent signs for
one.
-/

inductive Argument where
  | text (value : String)
  | number (value : Int)
  deriving DecidableEq, Repr

def Argument.render : Argument → String
  | .text value => value
  | .number (.ofNat n) => String.ofList (Nat.toDigits 10 n)
  | .number (.negSucc n) => String.ofList ('-' :: Nat.toDigits 10 (n + 1))

/-- The template's characters with the arguments put in, in order. -/
def fillIn : List Char → List Argument → List Char
  | [], _ => []
  | '%' :: '%' :: cs, args => '%' :: fillIn cs args
  | '%' :: _ :: cs, arg :: args => arg.render.toList ++ fillIn cs args
  | c :: cs, args => c :: fillIn cs args

def fill (template : String) (args : List Argument) : String :=
  String.ofList (fillIn template.toList args)

end Text

/-!
## Qualified names

A qualified name is the path of a package and the name of a type in it, with a dot between them.
The path may hold dots itself, so the last dot divides.
-/

structure QualifiedName where
  path : String
  name : String
  deriving DecidableEq, Repr

def QualifiedName.toText (q : QualifiedName) : String :=
  q.path ++ "." ++ q.name

/-- The part after the last dot, and what precedes that dot.  There is none without a dot. -/
def cutAtLastDot (cs : List Char) : Option (List Char × List Char) :=
  match cs.reverse.dropWhile (· != '.') with
  | [] => none
  | _ :: before => some (before.reverse, (cs.reverse.takeWhile (· != '.')).reverse)

/-- Reads a qualified name; neither the path nor the name may be empty. -/
def QualifiedName.parse? (s : String) : Option QualifiedName :=
  match cutAtLastDot s.toList with
  | none => none
  | some (path, name) =>
    if path.isEmpty || name.isEmpty then none
    else some ⟨String.ofList path, String.ofList name⟩

def isQualified (s : String) : Bool :=
  (QualifiedName.parse? s).isSome

end Unclosed
