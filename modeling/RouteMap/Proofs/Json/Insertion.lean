import RouteMap.Proofs.Json.Refusal

/-!
# Members put into a text

A member may be put into an object of a text wherever two tokens meet directly inside the object,
with a comma on the one side or the other where one is needed (`Place`, `Fitting`). The document of
the new text has this member more and no other change (`Place.Puts.gains`). So a text that is read
is refused if a strict record does not know the name or has the member already
(`Place.Puts.read_refused`), and is read as before if a lax record does not know the name
(`Place.Puts.read_passed`).
-/

namespace RouteMap.Json

variable {name : String} {v : Node} {member inserted : List Token} {cs : List Char}

/-- A document is read if its value is and nothing follows. -/
theorem Document.conform_eq_ok_iff {d : Document} {shape : Shape} {j : Json} :
    d.conform shape = .ok j ↔ d.root.conform .json maxDepth shape = .ok j ∧ d.trailing = false := by
  unfold Document.conform
  cases d.root.conform .json maxDepth shape with
  | error c => simp
  | ok w => cases d.trailing <;> simp

/-! ## Members -/

/-- The tokens are a name, a colon and the tokens of a value. -/
def IsMember (ts : List Token) (name : String) (v : Node) : Prop :=
  ∃ value, ts = .string name :: .colon :: value ∧ IsValue value v

/-- What puts a member in front of the next token of an object: the member alone if the object is
empty, else the member with a comma behind it or in front of it. -/
inductive Fitting (member : List Token) : Expect → Option Token → List Token → Prop
  | only : Fitting member .firstName (some .closeObject) member
  | first (s : String) : Fitting member .firstName (some (.string s)) (member ++ [.comma])
  | behindComma (s : String) :
      Fitting member .nameAfterComma (some (.string s)) (member ++ [.comma])
  | between : Fitting member .commaOrEnd (some .comma) (.comma :: member)
  | last : Fitting member .commaOrEnd (some .closeObject) (.comma :: member)

theorem IsMember.complete (h : IsMember member name v) : ∀ t ∈ member, t.Complete := by
  obtain ⟨value, rfl, hvalue⟩ := h
  exact List.forall_mem_cons.mpr ⟨trivial, List.forall_mem_cons.mpr ⟨trivial, hvalue.complete⟩⟩

/-- Where a name is due a member is read to its end. -/
theorem IsMember.run (h : IsMember member name v) {expect : Expect}
    (hexpect : expect = .firstName ∨ expect = .nameAfterComma)
    (done : List (Option String × Node)) (stack : List Frame) :
    member.foldl State.next (.inside expect (.members done none :: stack)) =
      .inside .commaOrEnd (.members ((some name, v) :: done) none :: stack) := by
  obtain ⟨value, rfl, hvalue⟩ := h
  rcases hexpect with rfl | rfl
  all_goals exact hvalue.run (.members done (some name) :: stack)

/-! ## Between two tokens -/

/-- A token that no number can run into. -/
def Token.Apart : Token → Prop
  | .comma | .closeObject | .string _ => True
  | _ => False

theorem not_apart_numberToken (negative : Bool) (cs : List Char) :
    ¬ (numberToken negative cs).1.Apart := by
  unfold numberToken
  rcases literal negative cs with f | ⟨l, rest⟩
  · exact id
  · dsimp only
    cases l.value? <;> exact id

/-- A text that begins with such a token does not go on with a number. -/
theorem numberEnds_of_apart {t : Token} (h : t ∈ (tokens cs).head?) (ht : t.Apart) :
    NumberEnds cs := by
  cases cs with
  | nil => exact numberEnds_nil
  | cons c cs =>
    by_cases hspace : isSpace c = true
    · refine numberEnds_cons cs ?_
      simp only [isSpace, Bool.or_eq_true, decide_eq_true_eq] at hspace
      rcases hspace with ((rfl | rfl) | rfl) | rfl <;> decide
    · rw [tokens_cons (by simpa using hspace)] at h
      obtain rfl : (token c cs).1 = t := by simpa using h
      refine numberEnds_cons cs ⟨?_, ?_, ?_, ?_⟩
      · by_contra hdigit
        rw [token_digit (by simpa using hdigit)] at ht
        exact not_apart_numberToken false _ ht
      all_goals
        rintro rfl
        exact ht

theorem numberEnds_append (h : NumberEnds cs) (hne : cs ≠ []) (rest : List Char) :
    NumberEnds (cs ++ rest) := by
  rwa [NumberEnds, List.head?_append_of_ne_nil _ hne]

theorem Fitting.apart {expect : Expect} {next : Option Token}
    (h : Fitting member expect next inserted) (hmember : IsMember member name v) :
    (∀ t ∈ inserted, t.Complete) ∧ (∃ t ∈ inserted.head?, t.Apart) ∧ ∃ t ∈ next, t.Apart := by
  have hcomplete := hmember.complete
  obtain ⟨value, rfl, hvalue⟩ := hmember
  cases h with
  | only => exact ⟨hcomplete, ⟨_, rfl, trivial⟩, _, rfl, trivial⟩
  | first | behindComma =>
    refine ⟨?_, ⟨_, rfl, trivial⟩, _, rfl, trivial⟩
    exact List.forall_mem_append.mpr ⟨hcomplete, List.forall_mem_singleton.mpr trivial⟩
  | between | last =>
    exact ⟨List.forall_mem_cons.mpr ⟨trivial, hcomplete⟩, ⟨_, rfl, trivial⟩, _, rfl, trivial⟩

/-! ## Places -/

/-- A place between two tokens of a text, directly inside an open object that stands for a
record. -/
structure Place (root : Shape) (text : String) where
  before : List Char
  behind : List Char
  split : text.toList = before ++ behind
  expect : Expect
  done : List (Option String × Node)
  stack : List Frame
  reached : (tokens before).foldl State.next .start = .inside expect (.members done none :: stack)
  strict : Bool
  layout : Layout
  due : Stack.due? root stack = some (.record strict layout)

namespace Place

variable {root : Shape} {text : String} (p : Place root text)

/-- The text with more characters at the place. -/
def insert (chars : List Char) : String := String.ofList (p.before ++ (chars ++ p.behind))

/-- The characters put a member into the object at the place. -/
def Puts (chars : List Char) (name : String) (v : Node) : Prop :=
  ∃ member, IsMember member name v ∧ Fitting member p.expect (tokens p.behind).head? (tokens chars)

/-- The object at the place has a member. -/
def Has (name : String) (v : Node) : Prop :=
  ∃ members, (Document.ofText text).root.at? (Stack.path p.stack) = some (.object members) ∧
    (some name, v) ∈ members.entries

variable {p} {chars : List Char}

theorem complete_before (p : Place root text) : ∀ t ∈ tokens p.before, t.Complete := by
  refine (State.complete_of_run (σ := .start) ?_).2
  rw [p.reached]
  trivial

/-- The text is cut between two tokens, and what is inserted has its tokens between them. -/
theorem Puts.tokens (h : p.Puts chars name v) :
    Json.tokens text.toList = Json.tokens p.before ++ Json.tokens p.behind ∧
      Json.tokens (p.insert chars).toList =
        Json.tokens p.before ++ (Json.tokens chars ++ Json.tokens p.behind) := by
  obtain ⟨member, hmember, hfitting⟩ := h
  obtain ⟨hcomplete, ⟨first, hfirst, hfirstApart⟩, next, hnext, hnextApart⟩ :=
    hfitting.apart hmember
  have hne : chars ≠ [] := by
    rintro rfl
    simp [Json.tokens] at hfirst
  have hbehind : NumberEnds p.behind := numberEnds_of_apart hnext hnextApart
  have hchars : NumberEnds (chars ++ p.behind) :=
    numberEnds_append (numberEnds_of_apart hfirst hfirstApart) hne p.behind
  constructor
  · rw [p.split, tokens_append p.complete_before hbehind]
  · rw [insert, String.toList_ofList, tokens_append p.complete_before hchars,
      tokens_append hcomplete hbehind]

/-- An object with a member more, whatever is read next. -/
theorem stackGains (p : Place root text) (name : String) (v : Node) (key : Option String) :
    Stack.Gains name v p.strict p.layout root (Stack.path p.stack)
      (.members p.done key :: p.stack) (.members ((some name, v) :: p.done) key :: p.stack) :=
  .innermost p.due (List.append_nil _).symm (.members fun rest => .here p.done rest)

/-- **The document has this member more**, in the object at the place. -/
theorem Puts.gains (h : p.Puts chars name v) :
    Node.Gains name v p.strict p.layout (Stack.path p.stack) root (Document.ofText text).root
        (Document.ofText (p.insert chars)).root ∧
      (Document.ofText (p.insert chars)).trailing = (Document.ofText text).trailing := by
  obtain ⟨hmeets, htokens⟩ := h.tokens
  obtain ⟨member, hmember, hfitting⟩ := h
  have hreached := p.reached
  have hstack := p.stackGains name v
  rw [Document.ofText, Document.ofText, htokens, hmeets, ← List.append_assoc]
  generalize Json.tokens p.before = front at hreached ⊢
  generalize Json.tokens p.behind = back at hfitting ⊢
  generalize Json.tokens chars = new at hfitting ⊢
  generalize p.expect = expect at hreached hfitting
  generalize hnext : back.head? = next at hfitting
  cases hfitting with
  | only =>
    -- both objects are closed next
    obtain ⟨back, rfl⟩ := List.head?_eq_some_iff.mp hnext
    rw [List.append_cons front, List.append_cons (front ++ _)]
    refine Document.gains_ofTokens ?_
    simp only [List.foldl_append, hreached, hmember.run (.inl rfl)]
    exact (hstack none).close
  | first s =>
    -- a name may stand behind the comma as at the start
    obtain ⟨back, rfl⟩ := List.head?_eq_some_iff.mp hnext
    rw [List.append_cons front, List.append_cons (front ++ _)]
    refine Document.gains_ofTokens ?_
    simp only [List.foldl_append, hreached, hmember.run (.inl rfl)]
    exact .inside (hstack (some s))
  | behindComma s =>
    refine Document.gains_ofTokens ?_
    simp only [List.foldl_append, hreached, hmember.run (.inr rfl)]
    exact .inside (hstack none)
  | between | last =>
    refine Document.gains_ofTokens ?_
    have hcomma : State.next (.inside .commaOrEnd (.members p.done none :: p.stack)) .comma =
        .inside .nameAfterComma (.members p.done none :: p.stack) := rfl
    simp only [List.foldl_append, hreached, List.foldl_cons, hcomma, hmember.run (.inr rfl)]
    exact .inside (hstack none)

/-! ## Reading -/

/-- A reading of the new text becomes what the reading of the object becomes. -/
theorem Puts.becomes_read {refused : Bool} (h : p.Puts chars name v)
    (hobject : ∀ done rest, (Document.ofText text).root.at? (Stack.path p.stack) =
        some (.object (.prepend done rest)) → ∀ depth,
      Becomes refused ((Members.prepend done rest).fields .json depth p.strict p.layout [])
        ((Members.prepend done (.member (some name) v rest)).fields .json depth p.strict p.layout
          [])) :
    Becomes refused (root.read text) (root.read (p.insert chars)) := by
  obtain ⟨hgains, htrailing⟩ := h.gains
  intro j hj
  obtain ⟨hroot, hend⟩ := Document.conform_eq_ok_iff.mp hj
  have hnew := hgains.becomes hobject maxDepth j hroot
  cases refused with
  | true =>
    rw [if_pos rfl] at hnew ⊢
    rw [Shape.read, Document.conform, hnew]
  | false => exact Document.conform_eq_ok_iff.mpr ⟨hnew, htrailing.trans hend⟩

/-- **A strict record refuses a member that is unknown or that it has already.** -/
theorem Puts.read_refused (h : p.Puts chars name v) (hstrict : p.strict = true)
    (hname : p.layout.find? name = none ∨ p.Has name v) :
    Becomes true (root.read text) (root.read (p.insert chars)) := by
  refine h.becomes_read fun done rest hat depth => ?_
  rw [hstrict]
  rcases hname with hname | ⟨members, hmembers, hmem⟩
  · exact Members.becomes_of_unknown hname done rest depth
  · rw [hat] at hmembers
    obtain rfl := Node.object.inj (Option.some.inj hmembers)
    exact Members.becomes_of_repeated hmem depth

/-- **A lax record passes over a member that is unknown**, whatever value it has. -/
theorem Puts.read_passed (h : p.Puts chars name v) (hstrict : p.strict = false)
    (hname : p.layout.find? name = none) :
    Becomes false (root.read text) (root.read (p.insert chars)) := by
  obtain ⟨_, ⟨_, _, hvalue⟩, _⟩ := id h
  refine h.becomes_read fun done rest _ depth => ?_
  rw [hstrict]
  exact Members.becomes_of_passed hname hvalue.skipped done rest depth

end Place

end RouteMap.Json
