import PresetBuild.Json.Token

/-!
# The values of JSON

A value is a tree, and its tokens are determined by it (`Value.tokens`): brackets around an array's
elements and an object's members, commas between them, a colon behind each key. Reading
(`Value.ofTokens?`) is a machine that takes one token at a time and keeps the arrays and objects it
stands inside on a stack of its own, so that values may be nested to any depth.

Members stay in the order in which they were written, with their keys as written, and a key may
occur more than once. What such an object means is for its reader to say.
-/

namespace PresetBuild.Json

/-- **A JSON value.** -/
inductive Value where
  | null
  | bool (b : Bool)
  | number
  | string (written : Written)
  | array (elements : List Value)
  | object (members : List (Written × Value))

/-! ## Writing -/

mutual

/-- **The tokens of a value.** -/
def Value.tokens : Value → List Token
  | .null => [.null]
  | .bool b => [.bool b]
  | .number => [.number]
  | .string w => [.string w]
  | .array es => .openArray :: elementTokens es
  | .object ms => .openObject :: memberTokens ms

/-- The tokens of an array behind its opening bracket. -/
def elementTokens : List Value → List Token
  | [] => [.closeArray]
  | v :: vs => v.tokens ++ furtherElementTokens vs

/-- The tokens of an array behind one of its elements. -/
def furtherElementTokens : List Value → List Token
  | [] => [.closeArray]
  | v :: vs => .comma :: v.tokens ++ furtherElementTokens vs

/-- The tokens of an object behind its opening bracket. -/
def memberTokens : List (Written × Value) → List Token
  | [] => [.closeObject]
  | (k, v) :: ms => .string k :: .colon :: v.tokens ++ furtherMemberTokens ms

/-- The tokens of an object behind one of its members. -/
def furtherMemberTokens : List (Written × Value) → List Token
  | [] => [.closeObject]
  | (k, v) :: ms => .comma :: .string k :: .colon :: v.tokens ++ furtherMemberTokens ms

end

/-! ## Reading -/

/-- **An array or object part way through**, with what it holds so far in reverse. -/
inductive Frame where
  | array (before : List Value)
  /-- An object whose member of this key is being read. -/
  | object (before : List (Written × Value)) (key : Written)

/-- **Where the reader stands**, inside the arrays and objects on its stack. -/
inductive Reader where
  /-- Before a value. -/
  | value (stack : List Frame)
  /-- Behind the opening bracket of an array. -/
  | element (stack : List Frame)
  /-- Behind the opening bracket of an object. -/
  | member (stack : List Frame)
  /-- Behind a comma in an object. -/
  | key (stack : List Frame) (before : List (Written × Value))
  /-- Behind a key. -/
  | colon (stack : List Frame) (before : List (Written × Value)) (key : Written)
  /-- Behind a value. -/
  | after (stack : List Frame) (value : Value)

namespace Reader

/-- A token that begins a value. -/
def begin? (stack : List Frame) : Token → Option Reader
  | .openArray => some (.element stack)
  | .openObject => some (.member stack)
  | .null => some (.after stack .null)
  | .bool b => some (.after stack (.bool b))
  | .number => some (.after stack .number)
  | .string w => some (.after stack (.string w))
  | _ => none

/-- A token behind a value inside an array or object. -/
def resume? (stack : List Frame) (v : Value) : Frame → Token → Option Reader
  | .array before, .comma => some (.value (.array (v :: before) :: stack))
  | .array before, .closeArray => some (.after stack (.array (v :: before).reverse))
  | .object before k, .comma => some (.key stack ((k, v) :: before))
  | .object before k, .closeObject => some (.after stack (.object ((k, v) :: before).reverse))
  | _, _ => none

/-- **One token.** -/
def step? : Reader → Token → Option Reader
  | .value stack, t => begin? stack t
  | .element stack, .closeArray => some (.after stack (.array []))
  | .element stack, t => begin? (.array [] :: stack) t
  | .member stack, .closeObject => some (.after stack (.object []))
  | .member stack, .string k => some (.colon stack [] k)
  | .key stack before, .string k => some (.colon stack before k)
  | .colon stack before k, .colon => some (.value (.object before k :: stack))
  | .after (frame :: stack) v, t => resume? stack v frame t
  | _, _ => none

/-- The reader's run over tokens. -/
def run? : Reader → List Token → Option Reader
  | r, [] => some r
  | r, t :: ts =>
    match step? r t with
    | none => none
    | some r' => run? r' ts

/-- The value read, once nothing is left open. -/
def finish? : Reader → Option Value
  | .after [] v => some v
  | _ => none

end Reader

/-- **The value of tokens**, if they are one value's. -/
def Value.ofTokens? (ts : List Token) : Option Value :=
  match Reader.run? (.value []) ts with
  | some r => r.finish?
  | none => none

/-- **The value that a text holds**, if it holds one and nothing else. -/
def Value.ofText? (text : List Char) : Option Value :=
  match tokens? text with
  | some ts => Value.ofTokens? ts
  | none => none

end PresetBuild.Json
