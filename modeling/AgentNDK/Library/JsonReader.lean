import AgentNDK.Library.Runs
import AgentNDK.Library.JsonGrammar

namespace JsonText
open CText Runs

inductive NumState
  | minus | zero | int | point | frac | exp | expSign | expDigits
  deriving DecidableEq

namespace NumState

/-- The literal read so far is a complete number. -/
def complete : NumState → Bool
  | zero | int | frac | expDigits => true
  | minus | point | exp | expSign => false

def first (c : Char) : Option NumState :=
  if c = '-' then some minus else if c = '0' then some zero else if c.isDigit then some int else none

def next : NumState → Char → Option NumState
  | minus, c => if c = '0' then some zero else if c.isDigit then some int else none
  | zero, c => if c = '.' then some point else if isExpMark c then some exp else none
  | int, c => if c.isDigit then some int else if c = '.' then some point
      else if isExpMark c then some exp else none
  | point, c => if c.isDigit then some frac else none
  | frac, c => if c.isDigit then some frac else if isExpMark c then some exp else none
  | exp, c => if isSign c then some expSign else if c.isDigit then some expDigits else none
  | expSign, c => if c.isDigit then some expDigits else none
  | expDigits, c => if c.isDigit then some expDigits else none

end NumState

/-- A container that is still open: an array with the elements before the
current one, an object between two members, or an object whose current member
has its key but not yet its value. -/
inductive Frame
  | arr (vs : List Json)
  | obj (ms : List (Text × Json))
  | mem (ms : List (Text × Json)) (key : Text)

/-- A string is read either as a value or as a member's key. -/
inductive Role
  | key | value
  deriving DecidableEq

/-- What the reader is in the middle of. `fresh` marks the place right after
an opening bracket, where the closing one may follow at once. -/
inductive Mode
  | value (fresh : Bool)
  | key (fresh : Bool)
  | colon (key : Text)
  | done (v : Json)
  | str (role : Role) (acc : Text)
  | escape (role : Role) (acc : Text)
  | hex (role : Role) (acc : Text) (digits : List Nat)
  | num (state : NumState) (literal : Text)
  | word (rest : Text) (v : Json)

structure Config where
  mode : Mode
  stack : List Frame

def valueStep (fresh : Bool) (stack : List Frame) (c : Char) : Option Config :=
  if isWs c then some ⟨.value fresh, stack⟩
  else match c with
    | '"' => some ⟨.str .value [], stack⟩
    | '[' => some ⟨.value true, .arr [] :: stack⟩
    | '{' => some ⟨.key true, .obj [] :: stack⟩
    | 'n' => some ⟨.word ['u', 'l', 'l'] .null, stack⟩
    | 't' => some ⟨.word ['r', 'u', 'e'] (.bool true), stack⟩
    | 'f' => some ⟨.word ['a', 'l', 's', 'e'] (.bool false), stack⟩
    | ']' => match fresh, stack with
      | true, .arr _ :: outer => some ⟨.done (.arr []), outer⟩
      | _, _ => none
    | _ => (NumState.first c).map fun st => ⟨.num st [c], stack⟩

def keyStep (fresh : Bool) (stack : List Frame) (c : Char) : Option Config :=
  if isWs c then some ⟨.key fresh, stack⟩
  else match c with
    | '"' => some ⟨.str .key [], stack⟩
    | '}' => match fresh, stack with
      | true, .obj _ :: outer => some ⟨.done (.obj []), outer⟩
      | _, _ => none
    | _ => none

def colonStep (key : Text) (stack : List Frame) (c : Char) : Option Config :=
  if isWs c then some ⟨.colon key, stack⟩
  else match c, stack with
    | ':', .obj ms :: outer => some ⟨.value false, .mem ms key :: outer⟩
    | _, _ => none

def doneStep (v : Json) (stack : List Frame) (c : Char) : Option Config :=
  if isWs c then some ⟨.done v, stack⟩
  else match c, stack with
    | ',', .arr vs :: outer => some ⟨.value false, .arr (vs ++ [v]) :: outer⟩
    | ']', .arr vs :: outer => some ⟨.done (.arr (vs ++ [v])), outer⟩
    | ',', .mem ms k :: outer => some ⟨.key false, .obj (ms ++ [(k, v)]) :: outer⟩
    | '}', .mem ms k :: outer => some ⟨.done (.obj (ms ++ [(k, v)])), outer⟩
    | _, _ => none

/-- The closing quotation mark ends a key or a string value. -/
def Role.close (role : Role) (acc : Text) (stack : List Frame) : Config :=
  match role with
  | .key => ⟨.colon acc, stack⟩
  | .value => ⟨.done (.str acc), stack⟩

def strStep (role : Role) (acc : Text) (stack : List Frame) (c : Char) : Option Config :=
  if c = '"' then some (role.close acc stack)
  else if c = '\\' then some ⟨.escape role acc, stack⟩
  else if isUnescaped c then some ⟨.str role (acc ++ [c]), stack⟩
  else none

def escapeStep (role : Role) (acc : Text) (stack : List Frame) (c : Char) : Option Config :=
  if c = 'u' then some ⟨.hex role acc [], stack⟩
  else (simpleEscape c).map fun d => ⟨.str role (acc ++ [d]), stack⟩

def hexStep (role : Role) (acc : Text) (digits : List Nat) (stack : List Frame) (c : Char) :
    Option Config :=
  (hexValue c).map fun d =>
    if digits.length = 3 then ⟨.str role (acc ++ [hexChar (digits ++ [d])]), stack⟩
    else ⟨.hex role acc (digits ++ [d]), stack⟩

/-- A number ends at the first character that cannot continue it, which is
then read as what follows the value. -/
def numStep (st : NumState) (literal : Text) (stack : List Frame) (c : Char) : Option Config :=
  match st.next c with
  | some st' => some ⟨.num st' (literal ++ [c]), stack⟩
  | none => if st.complete then doneStep (.num literal) stack c else none

def wordStep (rest : Text) (v : Json) (stack : List Frame) (c : Char) : Option Config :=
  match rest with
  | [] => none
  | d :: rest => if c = d then
      some (if rest.isEmpty then ⟨.done v, stack⟩ else ⟨.word rest v, stack⟩)
    else none

/-- One character of a JSON text. -/
def step (cfg : Config) (c : Char) : Option Config :=
  match cfg.mode with
  | .value fresh => valueStep fresh cfg.stack c
  | .key fresh => keyStep fresh cfg.stack c
  | .colon key => colonStep key cfg.stack c
  | .done v => doneStep v cfg.stack c
  | .str role acc => strStep role acc cfg.stack c
  | .escape role acc => escapeStep role acc cfg.stack c
  | .hex role acc digits => hexStep role acc digits cfg.stack c
  | .num st literal => numStep st literal cfg.stack c
  | .word rest v => wordStep rest v cfg.stack c

section Delimiters
variable (v : Json) (vs : List Json) (ms : List (Text × Json)) (k : Text) (outer : List Frame)

@[simp] theorem step_comma_arr :
    step ⟨.done v, .arr vs :: outer⟩ ',' = some ⟨.value false, .arr (vs ++ [v]) :: outer⟩ := rfl

@[simp] theorem step_close_arr :
    step ⟨.done v, .arr vs :: outer⟩ ']' = some ⟨.done (.arr (vs ++ [v])), outer⟩ := rfl

@[simp] theorem step_comma_mem :
    step ⟨.done v, .mem ms k :: outer⟩ ',' = some ⟨.key false, .obj (ms ++ [(k, v)]) :: outer⟩ := rfl

@[simp] theorem step_close_mem :
    step ⟨.done v, .mem ms k :: outer⟩ '}' = some ⟨.done (.obj (ms ++ [(k, v)])), outer⟩ := rfl

end Delimiters

def start : Config := ⟨.value false, []⟩

/-- A number at the end of the text counts as read once it is complete. -/
def settle (cfg : Config) : Config :=
  match cfg.mode with
  | .num st literal => if st.complete then ⟨.done (.num literal), cfg.stack⟩ else cfg
  | _ => cfg

def result (cfg : Config) : Option Json :=
  match settle cfg with
  | ⟨.done v, []⟩ => some v
  | _ => none

/-- The JSON reader: a run over the characters of the text. -/
def parse (t : Text) : Option Json :=
  (run step start t).bind result

end JsonText
