import QueryKit.Proofs.Sql.Rescanning

set_option autoImplicit false

/-! # SQL text read again

The text of conditions is read as words, signs, quoted characters and values, where parentheses keep
what stands between them together (`nodesOf`). A value is read where its placeholder stands, quotes are
those of the scan for markers, and there are no comments. Text that closes its quotes and its
parentheses is read the same wherever it stands (`Reads`), so conditions that are written one after
another, with words between them, are read one after another. -/

namespace QueryKit

namespace Sql

/-! ## Tokens -/

/-- What a text is made of besides parentheses. -/
inductive Leaf
  | word (cs : List Char)
  | sign (c : Char)
  /-- A character between quotes, or the quote that closes them. -/
  | quoted (c : Char)
  | hole (v : Value)

/-- A leaf or a parenthesis. -/
inductive Token
  | leaf (l : Leaf)
  | opening
  | closing

/-- A part of a word. All characters outside of ASCII are. -/
def isWordPart (c : Char) : Bool :=
  c.isAlphanum || c == '_' || c == '$' || decide (0x80 ≤ c.toNat)

/-- The token of the word that has been read, if any. -/
def wordTokens (word : List Char) : List Token :=
  if word.isEmpty then [] else [.leaf (.word word)]

/-- The tokens of a character outside of quotes that is no part of a word. -/
def signTokens (c : Char) : List Token :=
  if Text.isBlank c then []
  else if c == '(' then [.opening]
  else if c == ')' then [.closing]
  else [.leaf (.sign c)]

/-- The tokens of symbols that begin inside of `span`, behind the first characters of a word. -/
def tokensFrom (span : Span) (word : List Char) : List Symbol → List Token
  | [] => wordTokens word
  | .hole v :: rest => wordTokens word ++ .leaf (.hole v) :: tokensFrom span [] rest
  | .char c :: rest =>
    if span.isSome then wordTokens word ++ .leaf (.quoted c) :: tokensFrom (span.next c) [] rest
    else if isWordPart c then tokensFrom (span.next c) (word ++ [c]) rest
    else wordTokens word ++ signTokens c ++ tokensFrom (span.next c) [] rest

/-- The tokens of a text. -/
def tokens (xs : List Symbol) : List Token :=
  tokensFrom none [] xs

/-- The span that is open after a symbol. -/
def Symbol.next (span : Span) : Symbol → Span
  | .char c => span.next c
  | .hole _ => span

/-- The symbols close the quotes that they open. -/
def IsClosed (xs : List Symbol) : Prop :=
  xs.foldl Symbol.next none = none

instance (xs : List Symbol) : Decidable (IsClosed xs) :=
  inferInstanceAs (Decidable (xs.foldl Symbol.next none = none))

/-- A word ends before these symbols. -/
def EndsWord (xs : List Symbol) : Prop :=
  ∀ c ∈ xs.head?, ∀ a, c = .char a → isWordPart a = false

@[simp] theorem wordTokens_nil : wordTokens [] = [] := rfl

theorem EndsWord.nil : EndsWord [] := fun _ h => by cases h

theorem EndsWord.hole (v : Value) (xs : List Symbol) : EndsWord (.hole v :: xs) := by
  rintro _ ⟨⟩ a ⟨⟩

theorem EndsWord.char {c : Char} (h : isWordPart c = false) (xs : List Symbol) :
    EndsWord (.char c :: xs) := by
  rintro _ ⟨⟩ a ⟨⟩
  exact h

/-- Behind a word that ends, reading begins anew. -/
theorem tokensFrom_of_endsWord (word : List Char) {xs : List Symbol} (h : EndsWord xs) :
    tokensFrom none word xs = wordTokens word ++ tokens xs := by
  cases xs with
  | nil => simp [tokens, tokensFrom]
  | cons x rest =>
    cases x with
    | hole v => simp [tokens, tokensFrom]
    | char c =>
      have hc : isWordPart c = false := h _ rfl c rfl
      simp [tokens, tokensFrom, hc]

theorem tokensFrom_append {span : Span} (word : List Char) {xs ys : List Symbol}
    (hxs : xs.foldl Symbol.next span = none) (hys : EndsWord ys) :
    tokensFrom span word (xs ++ ys) = tokensFrom span word xs ++ tokens ys := by
  induction xs generalizing span word with
  | nil =>
    rw [List.foldl_nil] at hxs
    rw [hxs, List.nil_append, tokensFrom_of_endsWord word hys]
    rfl
  | cons x rest ih =>
    cases x with
    | hole v =>
      have hrest : rest.foldl Symbol.next span = none := hxs
      simp [tokensFrom, ih _ hrest]
    | char c =>
      have hrest : rest.foldl Symbol.next (span.next c) = none := hxs
      simp only [List.cons_append, tokensFrom, ih _ hrest]
      split
      · simp
      · split <;> simp

theorem tokens_append {xs ys : List Symbol} (hxs : IsClosed xs) (hys : EndsWord ys) :
    tokens (xs ++ ys) = tokens xs ++ tokens ys :=
  tokensFrom_append [] hxs hys

theorem IsClosed.append {xs ys : List Symbol} (hxs : IsClosed xs) (hys : IsClosed ys) :
    IsClosed (xs ++ ys) := by
  rw [IsClosed, List.foldl_append, hxs, hys]

/-! ## Nodes -/

/-- A leaf, or what stands between parentheses. -/
inductive Node
  | leaf (l : Leaf)
  | paren (nodes : List Node)

/-- The nodes of tokens behind `current`, inside of the parentheses that `outer` stands before. An
    open parenthesis is closed at the end, and one that closes nothing is left out. -/
def nodesFrom (outer : List (List Node)) (current : List Node) : List Token → List Node
  | [] => outer.foldl (fun inner before => before ++ [.paren inner]) current
  | .leaf l :: rest => nodesFrom outer (current ++ [.leaf l]) rest
  | .opening :: rest => nodesFrom (current :: outer) [] rest
  | .closing :: rest =>
    match outer with
    | [] => nodesFrom [] current rest
    | before :: outer => nodesFrom outer (before ++ [.paren current]) rest

/-- The nodes of a text. -/
def nodesOf (xs : List Symbol) : List Node :=
  nodesFrom [] [] (tokens xs)

mutual

/-- The tokens of a node. -/
def Node.tokens : Node → List Token
  | .leaf l => [.leaf l]
  | .paren nodes => .opening :: (tokensOf nodes ++ [.closing])

/-- The tokens of nodes one after another. -/
def tokensOf : List Node → List Token
  | [] => []
  | n :: rest => n.tokens ++ tokensOf rest

end

theorem tokensOf_append (ns ms : List Node) : tokensOf (ns ++ ms) = tokensOf ns ++ tokensOf ms := by
  induction ns with
  | nil => rfl
  | cons n rest ih => rw [List.cons_append, tokensOf, tokensOf, ih, List.append_assoc]

mutual

theorem nodesFrom_tokens (outer : List (List Node)) (current : List Node) (n : Node)
    (rest : List Token) :
    nodesFrom outer current (n.tokens ++ rest) = nodesFrom outer (current ++ [n]) rest := by
  match n with
  | .leaf l => rfl
  | .paren nodes =>
    rw [Node.tokens, List.cons_append, nodesFrom, List.append_assoc, nodesFrom_tokensOf,
      List.nil_append]
    rfl

/-- Nodes are read back from their tokens. -/
theorem nodesFrom_tokensOf (outer : List (List Node)) (current nodes : List Node)
    (rest : List Token) :
    nodesFrom outer current (tokensOf nodes ++ rest) = nodesFrom outer (current ++ nodes) rest := by
  match nodes with
  | [] => rw [tokensOf, List.nil_append, List.append_nil]
  | n :: ns =>
    rw [tokensOf, List.append_assoc, nodesFrom_tokens, nodesFrom_tokensOf, List.append_assoc,
      List.singleton_append]

end

/-! ## Readings -/

/-- The text closes its quotes and its parentheses, and is read as these nodes. -/
structure Reads (xs : List Symbol) (nodes : List Node) : Prop where
  closed : IsClosed xs
  tokens : tokens xs = tokensOf nodes

namespace Reads

variable {xs ys : List Symbol} {ns ms : List Node}

theorem nodesOf_eq (h : Reads xs ns) : nodesOf xs = ns := by
  have hnodes := nodesFrom_tokensOf [] [] ns []
  rw [List.append_nil, List.nil_append] at hnodes
  rw [nodesOf, h.tokens, hnodes]
  rfl

theorem nil : Reads [] [] := ⟨rfl, rfl⟩

theorem hole (v : Value) : Reads [.hole v] [.leaf (.hole v)] := ⟨rfl, rfl⟩

theorem append (hxs : Reads xs ns) (hys : Reads ys ms) (hword : EndsWord ys) :
    Reads (xs ++ ys) (ns ++ ms) :=
  ⟨hxs.closed.append hys.closed,
    by rw [tokens_append hxs.closed hword, hxs.tokens, hys.tokens, tokensOf_append]⟩

/-- Text between parentheses is read as one node. -/
theorem paren (h : Reads xs ns) : Reads (textSymbols "(" ++ (xs ++ textSymbols ")")) [.paren ns] := by
  have hclosing : EndsWord (textSymbols ")") := .char (by decide) []
  refine ⟨.append (by decide) (h.closed.append (by decide)), ?_⟩
  show .opening :: Sql.tokens (xs ++ textSymbols ")") = _
  rw [tokens_append h.closed hclosing, h.tokens, tokensOf, Node.tokens, tokensOf, List.append_nil]
  rfl

end Reads

/-- The node of the word for a connective. -/
def connectiveNode (k : Connective) : Node :=
  .leaf (.word k.word.toList)

theorem Reads.connect {xs ys : List Symbol} {ns ms : List Node} (hxs : Reads xs ns)
    (k : Connective) (hys : Reads ys ms) :
    Reads (xs ++ (textSymbols (" " ++ k.word ++ " ") ++ ys)) (ns ++ connectiveNode k :: ms) := by
  have hword : EndsWord (textSymbols (" " ++ k.word ++ " ") ++ ys) := by
    cases k <;> exact .char (by decide) _
  refine hxs.append ⟨?_, ?_⟩ hword
  · refine IsClosed.append ?_ hys.closed
    cases k <;> decide
  · rw [tokensOf, ← hys.tokens]
    cases k <;> rfl

end Sql

end QueryKit
