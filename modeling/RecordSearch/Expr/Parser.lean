/-
  RecordSearch.Expr.Parser
  ────────────────────────
  **Reading predicates and ordering clauses.**

  Tokens are read one at a time, from left to right, by a machine that never goes back. Its state
  (`Progress`) holds what may come next (`Stage`), the operators whose right operand is still
  being read (`Pending`), and the open parentheses with the operators pending around each.

      reduce n e pending   — completes the pending operators that bind at least as tightly as `n`
      step goal s lexeme   — the state after one more token, or where and why reading stops
      parsePredicate text  — the expression of a predicate
      parseOrdering text   — the keys of an ordering clause

  An operator read after a complete operand first completes what binds tighter: `Or` and `And`
  group to the left, `??` to the right, and comparisons do not chain. Since each state remembers
  all that is open, the place of an error is that of the first token that fits no state, and what
  was expected there can be said from the state alone.
-/
import RecordSearch.Error
import RecordSearch.Expr.Token

namespace RecordSearch

/-! ## §1. Operators. -/

/-- An operator between two operands. -/
inductive Binary where
  | or
  | and
  | compare (c : Comparison)
  | isIn
  | coalesce
  deriving DecidableEq

namespace Binary

/-- How tightly the operator binds; `Not` stands at 3. -/
def strength : Binary → Nat
  | .or => 1
  | .and => 2
  | .compare _ | .isIn => 4
  | .coalesce => 5

/-- The strength from which on the operators pending on its left are completed before it. -/
def absorbs : Binary → Nat
  | .or => 1
  | .and => 2
  | .compare _ | .isIn => 5
  | .coalesce => 6

/-- The expression that the operator forms. -/
def build : Binary → Expr → Expr → Expr
  | .or, l, r => .or l r
  | .and, l, r => .and l r
  | .compare c, l, r => .compare c l r
  | .isIn, l, r => .isIn l r
  | .coalesce, l, r => .coalesce l r

end Binary

namespace Token

/-- Is the token the given keyword, in any ASCII case? -/
def isWord (t : Token) (keyword : String) : Bool :=
  match t with
  | .word text => lowered text = keyword
  | _ => false

/-- The operator between operands that the token stands for. -/
def binary? (t : Token) : Option Binary :=
  match t with
  | .either => some .or
  | .both => some .and
  | .comparison c => some (.compare c)
  | .coalesce => some .coalesce
  | _ =>
    if t.isWord "or" then some .or
    else if t.isWord "and" then some .and
    else if t.isWord "in" then some .isIn
    else none

/-- Does the token negate the operand behind it? -/
def isNegation (t : Token) : Bool :=
  match t with
  | .bang => true
  | _ => t.isWord "not"

/-- The operand that the token is: a literal, a parameter, or a bare name that is no keyword. -/
def operand? (t : Token) : Option Expr :=
  match t with
  | .parameter index => some (.parameter index)
  | .escaped text => some (.name text)
  | .quoted text => some (.literal (.text text))
  | .integer n => some (.literal (.int n))
  | .decimal x => some (.literal (.float x))
  | .word text =>
    if t.isWord "null" then some (.literal .null)
    else if t.isWord "true" then some (.literal (.bool true))
    else if t.isWord "false" then some (.literal (.bool false))
    else if isKeyword text then none
    else some (.name text)
  | _ => none

/-- The member or method name that the token is behind a dot, where keywords are names too. -/
def memberName? : Token → Option String
  | .word text => some text
  | .escaped text => some text
  | _ => none

/-- The direction that the token is behind a sort key. -/
def direction? (t : Token) : Option Direction :=
  if t.isWord "ascending" || t.isWord "asc" then some .ascending
  else if t.isWord "descending" || t.isWord "desc" then some .descending
  else none

end Token

/-! ## §2. The state of reading. -/

/-- An operator whose right operand is being read. -/
inductive Pending where
  | not
  | binary (op : Binary) (left : Expr)

namespace Pending

def strength : Pending → Nat
  | .not => 3
  | .binary op _ => op.strength

/-- Completes the operator with its right operand. -/
def close (right : Expr) : Pending → Expr
  | .not => .not right
  | .binary op left => op.build left right

end Pending

/-- Completes the pending operators, innermost first, that bind at least as tightly as `least`. -/
def reduce (least : Nat) (e : Expr) : List Pending → Expr × List Pending
  | [] => (e, [])
  | p :: ps => if least ≤ p.strength then reduce least (p.close e) ps else (e, p :: ps)

/-- Completes all pending operators. -/
def closeAll (e : Expr) (pending : List Pending) : Expr := pending.foldl (fun e p => p.close e) e

/-- An open parenthesis. -/
inductive Bracket where
  /-- Around an operand. -/
  | group
  /-- Around the arguments of a call, some of which have been read. -/
  | arguments (target : Expr) (method : String) (before : List Expr)

def Bracket.isGroup : Bracket → Bool
  | .group => true
  | .arguments .. => false

/-- What may come next. -/
inductive Stage where
  /-- An operand must start here. -/
  | operand
  /-- An argument may start here, or the call ends. -/
  | firstArgument
  /-- An argument must start here, behind the comma at a position. -/
  | nextArgument (comma : Nat)
  /-- A member name must stand here, behind the dot. -/
  | memberName (target : Expr)
  /-- An operand has been read. -/
  | complete (e : Expr)
  /-- A member access has been read; a parenthesis makes it a call. -/
  | accessed (target : Expr) (n : String)

/-- The state of reading. -/
structure Progress where
  stage : Stage
  /-- The operators pending inside the innermost parenthesis, innermost first. -/
  pending : List Pending
  /-- The open parentheses, innermost first, each with the operators pending around it. -/
  brackets : List (Bracket × List Pending)

/-- What is being read: a predicate, or a sort key, which has no operators outside parentheses. -/
inductive Goal where
  | predicate
  | key
  deriving DecidableEq

namespace Progress

/-- Nothing has been read. -/
def start : Progress := ⟨.operand, [], []⟩

/-- The operand read last, if reading may stop behind it. -/
def operand? (s : Progress) : Option Expr :=
  match s.stage with
  | .complete e => some e
  | .accessed target n => some (.member target n)
  | _ => none

/-- Are operators admitted where reading stands? -/
def admitsOperators (goal : Goal) (s : Progress) : Bool :=
  goal = .predicate || !s.brackets.isEmpty

/-- Is reading inside parentheses around an operand? -/
def inGroup (s : Progress) : Bool := s.brackets.any (·.1.isGroup)

/-- Why reading cannot go on with what stands at a position. -/
def stuck (s : Progress) (position : Nat) : SyntaxError :=
  match s.stage with
  | .operand => ⟨position, true, none⟩
  | .firstArgument => ⟨position, s.inGroup, some .closingParenthesis⟩
  | .nextArgument comma => ⟨comma, s.inGroup, some .closingParenthesis⟩
  | .memberName _ => ⟨position, s.inGroup, some .memberName⟩
  | .complete _ | .accessed _ _ =>
    if s.brackets.isEmpty then ⟨position, false, none⟩
    else ⟨position, s.inGroup, some .closingParenthesis⟩

/-! ## §3. One token. -/

/-- Starts an operand with a token, or with a sign or parenthesis before it. -/
def startOperand? (goal : Goal) (s : Progress) (t : Token) : Option Progress :=
  match t with
  | .opening => some ⟨.operand, [], (.group, s.pending) :: s.brackets⟩
  | _ =>
    if t.isNegation then
      if s.admitsOperators goal && s.pending.head?.all (·.strength ≤ 3) then
        some { s with stage := .operand, pending := .not :: s.pending }
      else none
    else t.operand?.map fun e => { s with stage := .complete e }

/-- Closes the innermost parenthesis behind the operand `e`. -/
def close? (s : Progress) (e : Expr) : Option Progress :=
  match s.brackets with
  | [] => none
  | (.group, outer) :: rest => some ⟨.complete (closeAll e s.pending), outer, rest⟩
  | (.arguments target method before, outer) :: rest =>
    some ⟨.complete (.call target method (before ++ [closeAll e s.pending])), outer, rest⟩

/-- Goes on to the next argument behind the operand `e`. -/
def separate? (s : Progress) (e : Expr) (comma : Nat) : Option Progress :=
  match s.brackets with
  | (.arguments target method before, outer) :: rest =>
    some ⟨.nextArgument comma, [],
      (.arguments target method (before ++ [closeAll e s.pending]), outer) :: rest⟩
  | _ => none

/-- Goes on with an operator behind the operand `e`. A comparison does not follow another. -/
def join? (goal : Goal) (s : Progress) (e : Expr) (op : Binary) : Option Progress :=
  let (left, pending) := reduce op.absorbs e s.pending
  if s.admitsOperators goal &&
      pending.head?.all (fun p => p.strength < op.strength || op = .coalesce) then
    some { s with stage := .operand, pending := .binary op left :: pending }
  else none

/-- Goes on behind the complete operand `e`. -/
def continue? (goal : Goal) (s : Progress) (e : Expr) (lexeme : Lexeme) : Option Progress :=
  match lexeme.token with
  | .dot => some { s with stage := .memberName e }
  | .closing => s.close? e
  | .comma => s.separate? e lexeme.position
  | t => t.binary?.bind (s.join? goal e)

/-- Opens the parenthesis of a call. -/
def openCall (s : Progress) (target : Expr) (method : String) : Progress :=
  ⟨.firstArgument, [], (.arguments target method [], s.pending) :: s.brackets⟩

/-- Ends a call that has no arguments. -/
def endCall? (s : Progress) : Option Progress :=
  match s.brackets with
  | (.arguments target method before, outer) :: rest =>
    some ⟨.complete (.call target method before), outer, rest⟩
  | _ => none

/-- The state after a token, if it fits. -/
def next? (goal : Goal) (s : Progress) (lexeme : Lexeme) : Option Progress :=
  match s.stage, lexeme.token with
  | .firstArgument, .closing => s.endCall?
  | .operand, t | .firstArgument, t | .nextArgument _, t => s.startOperand? goal t
  | .memberName target, t => t.memberName?.map fun n => { s with stage := .accessed target n }
  | .accessed target n, .opening => some (s.openCall target n)
  | .accessed target n, _ => s.continue? goal (.member target n) lexeme
  | .complete e, _ => s.continue? goal e lexeme

/-- Must, or may, an operand start where reading stands? -/
def expectsOperand (s : Progress) : Bool :=
  match s.stage with
  | .operand | .firstArgument | .nextArgument _ => true
  | _ => false

/-- Why reading cannot go on with a token. An unclosed quote where an operand can start is
reported where its readable part ends. -/
def refuse (s : Progress) (lexeme : Lexeme) : SyntaxError :=
  match lexeme.token with
  | .unclosed bytes =>
    if s.expectsOperand then ⟨lexeme.position + 1 + bytes, true, some .closingQuote⟩
    else s.stuck lexeme.position
  | _ => s.stuck lexeme.position

/-- **One token.** -/
def step (goal : Goal) (s : Progress) (lexeme : Lexeme) : Except SyntaxError Progress :=
  match s.next? goal lexeme with
  | some s => .ok s
  | none => .error (s.refuse lexeme)

/-- The expression read, at the end of a text of the given length. -/
def finish (s : Progress) (length : Nat) : Except SyntaxError Expr :=
  match s.operand?, s.brackets with
  | some e, [] => .ok (closeAll e s.pending)
  | _, _ => .error (s.stuck length)

end Progress

/-! ## §4. Predicates. -/

/-- **The expression of a predicate.** -/
def parsePredicate (text : String) : Except SyntaxError Expr := do
  let s ← (lexemes text.toList).foldlM (Progress.step .predicate) .start
  s.finish (byteLength text.toList)

/-! ## §5. Ordering clauses. -/

/-- The state of reading an ordering clause, behind the keys that are complete. -/
inductive ClauseStage where
  /-- The first key must start here. -/
  | first
  /-- A key must start here, behind the comma at a position. -/
  | next (comma : Nat)
  /-- Inside a key. -/
  | key (s : Progress)
  /-- Behind a key and its direction. -/
  | directed (key : OrderingKey)

/-- The keys read so far, and where reading stands. -/
structure ClauseProgress where
  keys : List OrderingKey
  stage : ClauseStage

namespace ClauseProgress

/-- Starts a key; `refusal` says what is wrong with a token that starts none. -/
def startKey (c : ClauseProgress) (lexeme : Lexeme) (refusal : SyntaxError) :
    Except SyntaxError ClauseProgress :=
  match Progress.start.startOperand? .key lexeme.token, lexeme.token with
  | some s, _ => .ok { c with stage := .key s }
  | none, .unclosed _ => .error (Progress.start.refuse lexeme)
  | none, _ => .error refusal

/-- The operand of a key that may end here. -/
def keyOperand? (s : Progress) : Option Expr :=
  if s.brackets.isEmpty then s.operand? else none

/-- One token of an ordering clause. -/
def step (c : ClauseProgress) (lexeme : Lexeme) : Except SyntaxError ClauseProgress :=
  match c.stage with
  | .first => c.startKey lexeme (Progress.start.stuck lexeme.position)
  | .next comma => c.startKey lexeme ⟨comma, false, none⟩
  | .key s =>
    match keyOperand? s, lexeme.token, lexeme.token.direction? with
    | some e, _, some direction => .ok { c with stage := .directed ⟨e, direction⟩ }
    | some e, .comma, _ => .ok ⟨c.keys ++ [⟨e, .ascending⟩], .next lexeme.position⟩
    | _, _, _ => (s.step .key lexeme).map fun s => { c with stage := .key s }
  | .directed key =>
    match lexeme.token with
    | .comma => .ok ⟨c.keys ++ [key], .next lexeme.position⟩
    | _ => .error ⟨lexeme.position, false, none⟩

/-- The keys read, at the end of a text of the given length. -/
def finish (c : ClauseProgress) (length : Nat) : Except SyntaxError (List OrderingKey) :=
  match c.stage with
  | .first => .error (Progress.start.stuck length)
  | .next comma => .error ⟨comma, false, none⟩
  | .key s =>
    match keyOperand? s with
    | some e => .ok (c.keys ++ [⟨e, .ascending⟩])
    | none => .error (s.stuck length)
  | .directed key => .ok (c.keys ++ [key])

end ClauseProgress

/-- **The keys of an ordering clause.** A key without a direction is ascending. -/
def parseOrdering (text : String) : Except SyntaxError (List OrderingKey) := do
  let c ← (lexemes text.toList).foldlM ClauseProgress.step ⟨[], .first⟩
  c.finish (byteLength text.toList)

end RecordSearch
