import AgentNDK.Library.CText

namespace JsonText
open CText

/-- A JSON value. A number keeps its literal, since readers of different
languages turn one literal into different machine numbers; an object keeps
its members in the order of the text. -/
inductive Json
  | null
  | bool (b : Bool)
  | num (literal : Text)
  | str (s : Text)
  | arr (elements : List Json)
  | obj (members : List (Text × Json))

def isWs (c : Char) : Bool :=
  c == ' ' || c == '\t' || c == '\n' || c == '\r'

/-- A run of JSON whitespace. -/
def Ws (t : Text) : Prop :=
  ∀ c ∈ t, isWs c = true

def Digits (t : Text) : Prop :=
  ∀ c ∈ t, c.isDigit = true

/-- int = zero / ( digit1-9 *DIGIT ) -/
def IntPart (t : Text) : Prop :=
  t = ['0'] ∨ ∃ d ds, t = d :: ds ∧ d.isDigit = true ∧ d ≠ '0' ∧ Digits ds

/-- frac = decimal-point 1*DIGIT, or nothing. -/
def FracPart (t : Text) : Prop :=
  t = [] ∨ ∃ d ds, t = '.' :: d :: ds ∧ d.isDigit = true ∧ Digits ds

def isExpMark (c : Char) : Bool :=
  c == 'e' || c == 'E'

def isSign (c : Char) : Bool :=
  c == '+' || c == '-'

/-- exp = e [ minus / plus ] 1*DIGIT, or nothing. -/
def ExpPart (t : Text) : Prop :=
  t = [] ∨ ∃ e s d ds, t = e :: (s ++ d :: ds) ∧ isExpMark e = true ∧
    (s = [] ∨ ∃ c, s = [c] ∧ isSign c = true) ∧ d.isDigit = true ∧ Digits ds

/-- number = [ minus ] int [ frac ] [ exp ] -/
def Number (t : Text) : Prop :=
  ∃ m i f e, t = m ++ i ++ f ++ e ∧ (m = [] ∨ m = ['-']) ∧ IntPart i ∧ FracPart f ∧ ExpPart e

/-- A character that may stand for itself between quotation marks. -/
def isUnescaped (c : Char) : Bool :=
  0x20 ≤ c.toNat && c != '"' && c != '\\'

/-- The characters that may follow a backslash, apart from `u`. -/
def simpleEscape : Char → Option Char
  | '"' => some '"'
  | '\\' => some '\\'
  | '/' => some '/'
  | 'b' => some '\x08'
  | 'f' => some '\x0c'
  | 'n' => some '\n'
  | 'r' => some '\r'
  | 't' => some '\t'
  | _ => none

def hexValue (c : Char) : Option Nat :=
  if c.isDigit then some (c.toNat - '0'.toNat)
  else if 'a' ≤ c ∧ c ≤ 'f' then some (c.toNat - 'a'.toNat + 10)
  else if 'A' ≤ c ∧ c ≤ 'F' then some (c.toNat - 'A'.toNat + 10)
  else none

/-- The character a `\uXXXX` escape stands for. A surrogate half has no
character of its own and is read as the default one. -/
def hexChar (digits : List Nat) : Char :=
  Char.ofNat (digits.foldl (fun code d => 16 * code + d) 0)

/-- Hexadecimal digits and their values, in order. -/
inductive HexDigits : Text → List Nat → Prop
  | nil : HexDigits [] []
  | snoc {t ds c d} : HexDigits t ds → hexValue c = some d → HexDigits (t ++ [c]) (ds ++ [d])

/-- The text between two quotation marks, and the string it denotes. -/
inductive Chars : Text → Text → Prop
  | nil : Chars [] []
  | plain {t s c} : Chars t s → isUnescaped c = true → Chars (t ++ [c]) (s ++ [c])
  | escape {t s e c} : Chars t s → simpleEscape e = some c → Chars (t ++ ['\\', e]) (s ++ [c])
  | unicode {t s h ds} : Chars t s → HexDigits h ds → ds.length = 4 →
      Chars (t ++ ['\\', 'u'] ++ h) (s ++ [hexChar ds])

/-- What a stretch of JSON text can be read as: a bare value, a value with
the whitespace around it, an object member, and the elements or members of
an unfinished container, each followed by its comma. -/
inductive Phrase
  | value (v : Json)
  | item (v : Json)
  | member (key : Text) (v : Json)
  | elements (vs : List Json)
  | members (ms : List (Text × Json))

/-- The JSON grammar: which text denotes which phrase. -/
inductive Denotes : Phrase → Text → Prop
  | wordNull : Denotes (.value .null) ['n', 'u', 'l', 'l']
  | wordTrue : Denotes (.value (.bool true)) ['t', 'r', 'u', 'e']
  | wordFalse : Denotes (.value (.bool false)) ['f', 'a', 'l', 's', 'e']
  | num {t} : Number t → Denotes (.value (.num t)) t
  | str {t s} : Chars t s → Denotes (.value (.str s)) ('"' :: t ++ ['"'])
  | arrNil {w} : Ws w → Denotes (.value (.arr [])) ('[' :: w ++ [']'])
  | arr {vs e v t} : Denotes (.elements vs) e → Denotes (.item v) t →
      Denotes (.value (.arr (vs ++ [v]))) ('[' :: e ++ t ++ [']'])
  | objNil {w} : Ws w → Denotes (.value (.obj [])) ('{' :: w ++ ['}'])
  | obj {ms e k v t} : Denotes (.members ms) e → Denotes (.member k v) t →
      Denotes (.value (.obj (ms ++ [(k, v)]))) ('{' :: e ++ t ++ ['}'])
  | item {a v t b} : Ws a → Denotes (.value v) t → Ws b → Denotes (.item v) (a ++ t ++ b)
  | member {a c k b v t} : Ws a → Chars c k → Ws b → Denotes (.item v) t →
      Denotes (.member k v) (a ++ '"' :: c ++ '"' :: b ++ ':' :: t)
  | elementsNil : Denotes (.elements []) []
  | elementsSnoc {vs e v t} : Denotes (.elements vs) e → Denotes (.item v) t →
      Denotes (.elements (vs ++ [v])) (e ++ t ++ [','])
  | membersNil : Denotes (.members []) []
  | membersSnoc {ms e k v t} : Denotes (.members ms) e → Denotes (.member k v) t →
      Denotes (.members (ms ++ [(k, v)])) (e ++ t ++ [','])

/-- A JSON document: one value with optional whitespace on both sides. -/
def Document (t : Text) (v : Json) : Prop :=
  Denotes (.item v) t

end JsonText
