import AgentNDK.Library.JsonPrinter

namespace AgentNDK
open CText JsonText

/-- The members of a JSON object, in the order of its text. -/
abbrev JSONObject := List (Text × Json)

/-- The org.json package as the decoder uses it. An exception is `none`. -/
structure OrgJson where
  /-- the constructor of JSONObject from a text -/
  parse : Text → Option Json
  /-- how a value of a text is held, its numbers being an Integer, a Long or a Double -/
  held : Json → Json
  /-- how it is held after it went through its own text once more -/
  reheld : Json → Json
  /-- `toString()` -/
  print : Json → Text
  toLong : Json → Option Int
  toInt : Json → Option Int
  toBoolean : Json → Option Bool
  toStr : Json → Text
  /-- the message of the exception for a member that is missing or no object -/
  message : JSONObject → Text → Text

/-- A way to hold values under which a member is read as the kind of value it
is. Of the numbers, those of a Long are read as they are. -/
structure OrgJson.Holding (org : OrgJson) (held : Json → Json) : Prop where
  obj : ∀ ms, held (.obj ms) = .obj (ms.map fun m => (m.1, held m.2))
  arr : ∀ vs, held (.arr vs) = .arr (vs.map held)
  toStr_str : ∀ s, org.toStr (held (.str s)) = s
  toBoolean_bool : ∀ b, org.toBoolean (held (.bool b)) = some b
  toInt_num : ∀ i : Int, -2 ^ 31 ≤ i → i < 2 ^ 31 →
    org.toInt (held (.num (signedDecimal i))) = some i
  toLong_num : ∀ i : Int, -2 ^ 63 ≤ i → i < 2 ^ 63 →
    org.toLong (held (.num (signedDecimal i))) = some i

/-- The documented behaviour the decoder relies on: the parser follows the
JSON grammar, and the text of an object it returned reads back. -/
structure OrgJson.Lawful (org : OrgJson) : Prop where
  parse_document : ∀ t ms, Document t (.obj ms) → org.parse t = some (org.held (.obj ms))
  reparse : ∀ ms, Printable (.obj ms) →
    org.parse (org.print (org.held (.obj ms))) = some (org.reheld (.obj ms))
  holding : org.Holding org.held
  reholding : org.Holding org.reheld

namespace OrgJson
variable (org : OrgJson)

/-- A repeated key keeps its last value. -/
def opt (o : JSONObject) (name : Text) : Option Json :=
  o.reverse.lookup name

def getJSONObject (o : JSONObject) (name : Text) : Option JSONObject :=
  match opt o name with
  | some (.obj ms) => some ms
  | _ => none

/-- `getJSONArray`, and `optJSONArray` where `none` is null. -/
def getJSONArray (o : JSONObject) (name : Text) : Option (List Json) :=
  match opt o name with
  | some (.arr vs) => some vs
  | _ => none

def getString (o : JSONObject) (name : Text) : Option Text :=
  (opt o name).map org.toStr

def getInt (o : JSONObject) (name : Text) : Option Int :=
  (opt o name).bind org.toInt

def getLong (o : JSONObject) (name : Text) : Option Int :=
  (opt o name).bind org.toLong

def optString (o : JSONObject) (name fallback : Text) : Text :=
  (org.getString o name).getD fallback

def optInt (o : JSONObject) (name : Text) (fallback : Int) : Int :=
  (org.getInt o name).getD fallback

def optLong (o : JSONObject) (name : Text) (fallback : Int) : Int :=
  (org.getLong o name).getD fallback

def optBoolean (o : JSONObject) (name : Text) (fallback : Bool) : Bool :=
  ((opt o name).bind org.toBoolean).getD fallback

end OrgJson

/-- The object a document denotes. -/
def parseObject (t : Text) : Option Json :=
  (parse t).filter fun v => v matches .obj _

theorem parseObject_eq {t : Text} {ms : JSONObject} (read : parse t = some (.obj ms)) :
    parseObject t = some (.obj ms) := by
  rw [parseObject, read]
  rfl

/-- A reader and printer that holds every value as it stands. -/
def OrgJson.verbatim : OrgJson where
  parse := parseObject
  held := id
  reheld := id
  print := Json.print
  toLong v := if let .num literal := v then some (readDecimal literal) else none
  toInt v := if let .num literal := v then some (readDecimal literal) else none
  toBoolean v := if let .bool b := v then some b else none
  toStr v := if let .str s := v then s else v.print
  message _ name := "No value for " ++ name

theorem OrgJson.verbatim_lawful : OrgJson.verbatim.Lawful := by
  have holding : OrgJson.verbatim.Holding id :=
    { obj := fun ms => congrArg Json.obj (List.map_id ms).symm
      arr := fun vs => congrArg Json.arr (List.map_id vs).symm
      toStr_str := fun _ => rfl
      toBoolean_bool := fun _ => rfl
      toInt_num := fun i _ _ => congrArg some (readDecimal_signedDecimal i)
      toLong_num := fun i _ _ => congrArg some (readDecimal_signedDecimal i) }
  exact
    { parse_document := fun t ms document => parseObject_eq (parse_eq_some_iff.mpr document)
      reparse := fun ms printable => parseObject_eq (parse_print printable)
      holding := holding
      reholding := holding }

theorem lookup_map_held (held : Json → Json) (ms : JSONObject) (name : Text) :
    (ms.map fun m => (m.1, held m.2)).lookup name = (ms.lookup name).map held := by
  induction ms with
  | nil => rfl
  | cons m ms ih =>
    rw [List.map_cons, List.lookup_cons, List.lookup_cons, ih]
    split <;> rfl

/-- Members are found before and after the parser held them alike. -/
theorem opt_held (held : Json → Json) (ms : JSONObject) (name : Text) :
    OrgJson.opt (ms.map fun m => (m.1, held m.2)) name = (OrgJson.opt ms name).map held := by
  rw [OrgJson.opt, ← List.map_reverse, lookup_map_held]
  rfl

/-- A Long in base 16. -/
def signedHexadecimal : Int → Text
  | .ofNat n => hexadecimal n
  | .negSucc n => '-' :: hexadecimal (n + 1)

end AgentNDK
