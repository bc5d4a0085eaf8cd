import NativeApi.Json.Token

/-!
# Reading data trees

A text is read token by token with a stack of the arrays and objects that are still open.
At most `nestingLimit` of them may be open at once.  A reader may ignore some fields of
the outermost object: their values have to be well spelled, but may be nested at will and
hold strings and scalars without a value.
-/

namespace NativeApi.Json

/-- The number of arrays and objects that may be open at once. -/
def nestingLimit : Nat := 127

/-- An array or object that is still open, with what it has so far, last first. -/
inductive Frame where
  | items (read : List Json)
  | fields (read : List (String × Json)) (key : String)
  | skipped (isArray : Bool)

/-- What may come next inside the innermost open array or object. -/
inductive Expected where
  | value
  | valueOrEnd
  | key
  | keyOrEnd
  | colon
  | commaOrEnd

/-- A reader on its way: still inside of something, or done with a tree. -/
inductive Progress where
  | pending (frames : List Frame) (expected : Expected)
  | done (tree : Json)

/-- Whether what is read inside of these frames is ignored. -/
def isIgnored (ignored : String → Bool) : List Frame → Bool
  | .skipped _ :: _ => true
  | [.fields _ key] => ignored key
  | _ => false

/-- Hands a value to the innermost frame. -/
def deliver (ignored : String → Bool) (frames : List Frame) (value : Option Json) :
    Option Progress :=
  match frames with
  | [] => value.map .done
  | .items read :: outer => value.map fun v => .pending (.items (v :: read) :: outer) .commaOrEnd
  | .fields read key :: outer =>
    if isIgnored ignored (.fields read key :: outer) then
      some (.pending (.fields read key :: outer) .commaOrEnd)
    else value.map fun v => .pending (.fields ((key, v) :: read) key :: outer) .commaOrEnd
  | .skipped isArray :: outer => some (.pending (.skipped isArray :: outer) .commaOrEnd)

/-- Opens an array or an object. -/
def openFrame (ignored : String → Bool) (frames : List Frame) (isArray : Bool) :
    Option Progress :=
  let expected := if isArray then Expected.valueOrEnd else .keyOrEnd
  if isIgnored ignored frames then some (.pending (.skipped isArray :: frames) expected)
  else if nestingLimit ≤ frames.length then none
  else some (.pending ((if isArray then .items [] else .fields [] "") :: frames) expected)

/-- Closes the innermost frame. -/
def closeFrame (ignored : String → Bool) (frames : List Frame) (isArray : Bool) :
    Option Progress :=
  match frames with
  | .items read :: outer =>
    if isArray then deliver ignored outer (some (.array read.reverse)) else none
  | .fields read _ :: outer =>
    if isArray then none else deliver ignored outer (some (.object read.reverse))
  | .skipped wasArray :: outer =>
    if isArray = wasArray then deliver ignored outer (some .null) else none
  | [] => none

/-- A key of the innermost object, which needs a value unless the object is ignored. -/
def readKey (frames : List Frame) (key : Option String) : Option Progress :=
  match frames with
  | .fields read _ :: outer => key.map fun k => .pending (.fields read k :: outer) .colon
  | .skipped isArray :: outer => some (.pending (.skipped isArray :: outer) .colon)
  | _ => none

/-- What follows a comma inside of a frame. -/
def afterComma : List Frame → Option Expected
  | .items _ :: _ => some .value
  | .fields _ _ :: _ => some .key
  | .skipped isArray :: _ => some (if isArray then .value else .key)
  | [] => none

/-- One more token. -/
def readToken (ignored : String → Bool) : Progress → Token → Option Progress
  | .done _, _ => none
  | .pending frames expected, token =>
    match expected, token with
    | .value, .scalar v | .valueOrEnd, .scalar v => deliver ignored frames v
    | .value, .string t | .valueOrEnd, .string t => deliver ignored frames (t.map .string)
    | .value, .beginArray | .valueOrEnd, .beginArray => openFrame ignored frames true
    | .value, .beginObject | .valueOrEnd, .beginObject => openFrame ignored frames false
    | .valueOrEnd, .endArray | .commaOrEnd, .endArray => closeFrame ignored frames true
    | .keyOrEnd, .endObject | .commaOrEnd, .endObject => closeFrame ignored frames false
    | .key, .string t | .keyOrEnd, .string t => readKey frames t
    | .colon, .colon => some (.pending frames .value)
    | .commaOrEnd, .comma => (afterComma frames).map (.pending frames)
    | _, _ => none

/-- The tree of a text, without the fields of the outermost object that are ignored. -/
def readIgnoring? (ignored : String → Bool) (text : String) : Option Json := do
  let tokens ← tokens? text
  match ← tokens.foldlM (readToken ignored) (.pending [] .value) with
  | .done tree => some tree
  | .pending _ _ => none

/-- The tree of a text. -/
def read? (text : String) : Option Json := readIgnoring? (fun _ => false) text

end NativeApi.Json
