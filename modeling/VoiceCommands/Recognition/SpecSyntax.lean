import VoiceCommands.Text.Words

/-!
# Reading specifications

Rules are written as *specifications*, compact strings such as
`'close [<n>] ( frame | frames )'`.  The language has the grammar

    alternative := sequence ("|" sequence)*
    sequence    := single* | sequence "{" WORD "}"
    single      := WORD+ | "<" WORD ">" | "[" alternative "]" | "(" alternative ")"

where a `WORD` is a run of characters that are neither white space nor one
of `[]<>|(){}`; blanks and tabs between tokens are skipped.

A specification is read by an LR automaton (`row`, `goto`) that builds a
`SpecTree`.  The scanner works for the automaton: in each state it only
recognizes the kinds of token that state can act on (`scannable`), so a
token out of place is refused as soon as it is met.  A refusal
(`SpecSyntaxError`) names what was met and what would have been taken:

* a token of a kind the current state does not scan, or one the automaton
  cannot act on once it has reduced what it could;
* the end of the specification where more was needed;
* a character that starts no token at all (white space other than blanks
  and tabs, such as a line break).

The lists of expected kinds keep the order in which the states list them,
which is how refusals are reported.  Reading is bounded by a fuel argument
proportional to the length of the specification; every token costs one
shift and a bounded number of reductions, so the fuel is never the reason
for a refusal in practice.
-/

namespace VoiceCommands.Recognition

open Text

/-- The kinds of token of the specification language. -/
inductive Terminal where
  | word
  | lessThan
  | moreThan
  | leftSquare
  | rightSquare
  | leftParen
  | rightParen
  | bar
  | leftBrace
  | rightBrace
  /-- The end of the specification. -/
  | finish
  deriving Repr, DecidableEq, Inhabited

/-- The name of a kind of token, as refusals report it. -/
def Terminal.name : Terminal → String
  | .word => "WORD"
  | .lessThan => "LESSTHAN"
  | .moreThan => "MORETHAN"
  | .leftSquare => "LSQB"
  | .rightSquare => "RSQB"
  | .leftParen => "LPAR"
  | .rightParen => "RPAR"
  | .bar => "VBAR"
  | .leftBrace => "LBRACE"
  | .rightBrace => "RBRACE"
  | .finish => "$END"

/-- The punctuation token a character stands for. -/
def punctuation? (c : Char) : Option Terminal :=
  if c = '<' then some .lessThan
  else if c = '>' then some .moreThan
  else if c = '[' then some .leftSquare
  else if c = ']' then some .rightSquare
  else if c = '(' then some .leftParen
  else if c = ')' then some .rightParen
  else if c = '|' then some .bar
  else if c = '{' then some .leftBrace
  else if c = '}' then some .rightBrace
  else none

/-- Characters that may appear in a word. -/
def isWordChar (c : Char) : Bool := !isSpace c && (punctuation? c).isNone

/-- Characters skipped between tokens. -/
def isBlank (c : Char) : Bool := c = ' ' || c = '\t'

/-- A token: its kind, its text and the column (from 1) where it starts. -/
structure Token where
  kind : Terminal
  text : String
  column : Nat
  deriving Repr, DecidableEq, Inhabited

/-- A token as refusals write it, e.g. `Token(WORD, 'bar')`. -/
def Token.show (t : Token) : String := "Token(" ++ t.kind.name ++ ", " ++ quote t.text ++ ")"

/-! ## Trees -/

/-- A specification as read, before its references are resolved.  A
sequence of one part is that part, an alternative of one choice is that
choice, and a group `( … )` is its contents. -/
inductive SpecTree where
  /-- Words said as written. -/
  | literal (words : List String)
  /-- `<name>`. -/
  | reference (name : String)
  /-- `[ … ]`. -/
  | optional (body : SpecTree)
  /-- Parts one after the other (none for an empty sequence). -/
  | sequence (items : List SpecTree)
  /-- Choices separated by `|`. -/
  | alternative (choices : List SpecTree)
  /-- A sequence with a special specifier `{ … }`. -/
  | special (body : SpecTree) (specifier : String)
  deriving Repr, Inhabited

/-! ## The automaton -/

/-- The productions of the grammar, named for what they build. -/
inductive Production where
  /-- `alternative := sequence` -/
  | choiceOne
  /-- `alternative := sequence moreChoices` -/
  | choiceMany
  /-- `moreChoices := "|" sequence` -/
  | moreFirst
  /-- `moreChoices := moreChoices "|" sequence` -/
  | moreNext
  /-- `sequence :=` (nothing) -/
  | emptySequence
  /-- `sequence := singles` -/
  | singlesSequence
  /-- `sequence := sequence "{" WORD "}"` -/
  | specialSequence
  /-- `singles := single` -/
  | singlesFirst
  /-- `singles := singles single` -/
  | singlesNext
  /-- `single := words` -/
  | literal
  /-- `single := "<" WORD ">"` -/
  | reference
  /-- `single := "[" alternative "]"` -/
  | optional
  /-- `single := "(" alternative ")"` -/
  | group
  /-- `words := WORD` -/
  | wordsFirst
  /-- `words := words WORD` -/
  | wordsNext
  deriving Repr, DecidableEq, Inhabited

/-- The nonterminals of the grammar. -/
inductive Nonterminal where
  | alternative
  | moreChoices
  | sequence
  | singles
  | single
  | words
  deriving Repr, DecidableEq, Inhabited

/-- The nonterminal a production builds. -/
def Production.lhs : Production → Nonterminal
  | .choiceOne | .choiceMany => .alternative
  | .moreFirst | .moreNext => .moreChoices
  | .emptySequence | .singlesSequence | .specialSequence => .sequence
  | .singlesFirst | .singlesNext => .singles
  | .literal | .reference | .optional | .group => .single
  | .wordsFirst | .wordsNext => .words

/-- The number of symbols a production takes. -/
def Production.length : Production → Nat
  | .emptySequence => 0
  | .choiceOne | .singlesSequence | .singlesFirst | .literal | .wordsFirst => 1
  | .choiceMany | .moreFirst | .singlesNext | .wordsNext => 2
  | .moreNext | .reference | .optional | .group => 3
  | .specialSequence => 4

/-- What a state does with a token. -/
inductive Move where
  /-- Takes the token and goes to a state. -/
  | shift (target : Nat)
  /-- Replaces the symbols of a production by what it builds. -/
  | reduce (p : Production)
  /-- The whole specification has been read. -/
  | accept
  deriving Repr, DecidableEq, Inhabited

/-- A row of reductions by one production on the given kinds. -/
def reduceOn (kinds : List Terminal) (p : Production) : List (Terminal × Move) :=
  kinds.map fun k => (k, .reduce p)

/-- The order in which the states that end a part list what may follow. -/
def afterPart : List Terminal :=
  [.lessThan, .word, .finish, .bar, .leftParen, .leftSquare, .leftBrace, .rightSquare, .rightParen]

/-- The order in which the states that end a run of words list what may
follow. -/
def afterWords : List Terminal :=
  [.word, .lessThan, .finish, .leftBrace, .leftParen, .leftSquare, .bar, .rightSquare, .rightParen]

/-- The moves of each state, in the order the state lists them. -/
def row : Nat → List (Terminal × Move)
  | 0 => [(.leftSquare, .shift 5), (.leftParen, .shift 4), (.lessThan, .shift 3),
          (.word, .shift 9)] ++ reduceOn [.leftBrace, .finish, .bar] .emptySequence
  | 1 => [(.finish, .accept)]
  | 2 => reduceOn afterPart .singlesFirst
  | 3 => [(.word, .shift 10)]
  | 4 => [(.leftSquare, .shift 5), (.leftParen, .shift 4), (.word, .shift 9),
          (.lessThan, .shift 3)] ++ reduceOn [.leftBrace, .rightParen, .bar] .emptySequence
  | 5 => [(.leftSquare, .shift 5), (.leftParen, .shift 4), (.lessThan, .shift 3),
          (.word, .shift 9)] ++ reduceOn [.rightSquare, .leftBrace, .bar] .emptySequence
  | 6 => (.word, .shift 13) ::
          reduceOn [.lessThan, .finish, .bar, .leftParen, .leftSquare, .leftBrace,
            .rightSquare, .rightParen] .literal
  | 7 => [(.bar, .shift 16), (.leftBrace, .shift 15)] ++
          reduceOn [.finish, .rightSquare, .rightParen] .choiceOne
  | 8 => [(.leftSquare, .shift 5), (.leftParen, .shift 4), (.lessThan, .shift 3),
          (.word, .shift 9)] ++
          reduceOn [.leftBrace, .finish, .bar, .rightSquare, .rightParen] .singlesSequence
  | 9 => reduceOn afterWords .wordsFirst
  | 10 => [(.moreThan, .shift 18)]
  | 11 => [(.rightParen, .shift 19)]
  | 12 => [(.rightSquare, .shift 20)]
  | 13 => reduceOn afterWords .wordsNext
  | 14 => (.bar, .shift 21) :: reduceOn [.finish, .rightSquare, .rightParen] .choiceMany
  | 15 => [(.word, .shift 22)]
  | 16 => [(.leftSquare, .shift 5), (.leftParen, .shift 4), (.lessThan, .shift 3),
           (.word, .shift 9)] ++
           reduceOn [.rightSquare, .finish, .bar, .rightParen, .leftBrace] .emptySequence
  | 17 => reduceOn afterPart .singlesNext
  | 18 => reduceOn afterPart .reference
  | 19 => reduceOn afterPart .group
  | 20 => reduceOn afterPart .optional
  | 21 => [(.leftSquare, .shift 5), (.leftParen, .shift 4), (.lessThan, .shift 3),
           (.word, .shift 9)] ++
           reduceOn [.rightSquare, .finish, .bar, .rightParen, .leftBrace] .emptySequence
  | 22 => [(.rightBrace, .shift 25)]
  | 23 => (.leftBrace, .shift 15) ::
           reduceOn [.rightSquare, .finish, .rightParen, .bar] .moreFirst
  | 24 => (.leftBrace, .shift 15) ::
           reduceOn [.rightSquare, .finish, .rightParen, .bar] .moreNext
  | 25 => reduceOn [.leftBrace, .finish, .bar, .rightSquare, .rightParen] .specialSequence
  | _ => []

/-- The state reached from a state by a nonterminal just built there. -/
def goto (state : Nat) : Nonterminal → Nat
  | .alternative => if state = 4 then 11 else if state = 5 then 12 else 1
  | .moreChoices => 14
  | .sequence => if state = 16 then 23 else if state = 21 then 24 else 7
  | .singles => 8
  | .single => if state = 8 then 17 else 2
  | .words => 6

/-- The move of a state on a kind of token, if it has one. -/
def moveOf (state : Nat) (k : Terminal) : Option Move := (row state).lookup k

/-- The kinds of token a state acts on, in its order. -/
def expectedAt (state : Nat) : List Terminal := (row state).map (·.1)

/-- The kinds of token the scanner looks for in a state: those the state
acts on, the end aside, in the order the scanner reports them. -/
def scannable : Nat → List Terminal
  | 0 => [.word, .lessThan, .leftBrace, .leftParen, .leftSquare, .bar]
  | 3 | 15 => [.word]
  | 4 => [.word, .bar, .lessThan, .leftParen, .leftSquare, .rightParen, .leftBrace]
  | 5 => [.rightSquare, .word, .bar, .lessThan, .leftParen, .leftSquare, .leftBrace]
  | 10 => [.moreThan]
  | 22 => [.rightBrace]
  | 25 => [.rightSquare, .bar, .rightParen, .leftBrace]
  | 9 | 13 | 16 | 18 | 19 | 20 | 21 =>
    [.rightSquare, .word, .bar, .lessThan, .leftParen, .leftSquare, .rightParen, .leftBrace]
  | s => (expectedAt s).filter (· ≠ .finish)

/-! ## Scanning -/

/-- What the scanner found from a position. -/
inductive Scan where
  /-- A token, with the characters after it and their position. -/
  | token (t : Token) (rest : List Char) (position : Nat)
  /-- Nothing but blanks was left. -/
  | finished
  /-- A token of a kind the state does not look for. -/
  | refused (t : Token)
  /-- A character, at a position, that starts no token. -/
  | stuck (c : Char) (position : Nat)
  deriving Repr, Inhabited

/-- The next token from `cs` (which starts at position `pos`), looking only
for the given kinds; blanks before it are skipped. -/
def scan (kinds : List Terminal) : List Char → Nat → Scan
  | [], _ => .finished
  | c :: cs, pos =>
    if isBlank c then scan kinds cs (pos + 1)
    else
      let found : Option (Token × List Char × Nat) :=
        match punctuation? c with
        | some k => some (⟨k, c.toString, pos + 1⟩, cs, pos + 1)
        | none =>
          if isSpace c then none
          else
            let w := (c :: cs).takeWhile isWordChar
            some (⟨.word, String.ofList w, pos + 1⟩, (c :: cs).drop w.length, pos + w.length)
      match found with
      | some (t, rest, next) => if kinds.contains t.kind then .token t rest next else .refused t
      | none => .stuck c pos

/-! ## Running the automaton -/

/-- A symbol on the stack of the automaton, with what it stands for. -/
inductive Item where
  | token (t : Token)
  | words (ws : List String)
  | node (t : SpecTree)
  | nodes (ts : List SpecTree)
  deriving Repr, Inhabited

/-- What a production builds from the items of its symbols, in order. -/
def Production.build : Production → List Item → Item
  | .choiceOne, [.node s] => .node s
  | .choiceMany, [.node s, .nodes more] => .node (.alternative (s :: more))
  | .moreFirst, [_, .node s] => .nodes [s]
  | .moreNext, [.nodes ms, _, .node s] => .nodes (ms ++ [s])
  | .emptySequence, _ => .node (.sequence [])
  | .singlesSequence, [.nodes [x]] => .node x
  | .singlesSequence, [.nodes xs] => .node (.sequence xs)
  | .specialSequence, [.node s, _, .token w, _] => .node (.special s w.text)
  | .singlesFirst, [.node x] => .nodes [x]
  | .singlesNext, [.nodes xs, .node x] => .nodes (xs ++ [x])
  | .literal, [.words ws] => .node (.literal ws)
  | .reference, [_, .token w, _] => .node (.reference w.text)
  | .optional, [_, .node a, _] => .node (.optional a)
  | .group, [_, .node a, _] => .node a
  | .wordsFirst, [.token w] => .words [w.text]
  | .wordsNext, [.words ws, .token w] => .words (ws ++ [w.text])
  | _, _ => .nodes []

/-- The stack of the automaton: states with the items that led to them,
the most recent first. -/
abbrev Stack := List (Nat × Item)

/-- The current state: that of the most recent item, or the start state. -/
def Stack.state (s : Stack) : Nat := (s.head?.map (·.1)).getD 0

/-- Reduces by a production: the items of its symbols are replaced by what
it builds, in the state the automaton goes to. -/
def Stack.reduce (s : Stack) (p : Production) : Stack :=
  let taken := (s.take p.length).reverse.map (·.2)
  let below : Stack := s.drop p.length
  (goto below.state p.lhs, p.build taken) :: below

/-- Why a specification could not be read. -/
inductive SpecSyntaxError where
  /-- A token that could not be taken, with the kinds that could have been. -/
  | unexpectedToken (t : Token) (expected : List Terminal)
  /-- A character, at a position (from 0), that starts no token; with the
  kinds the scanner looked for and the token read before it. -/
  | unexpectedCharacter (c : Char) (position : Nat) (allowed : List Terminal)
      (previous : Option Token)
  deriving Repr, Inhabited

/-- Feeds one token to the automaton: reduces while the state asks for it,
then takes the token.  The result is the new stack, or the tree of the whole
specification when the end was accepted. -/
def feed (t : Token) : Nat → Stack → Except SpecSyntaxError (Stack ⊕ SpecTree)
  | 0, s => .error (.unexpectedToken t (expectedAt s.state))
  | fuel + 1, s =>
    match moveOf s.state t.kind with
    | some (.shift target) => .ok (.inl ((target, .token t) :: s))
    | some (.reduce p) => feed t fuel (s.reduce p)
    | some .accept =>
      match s with
      | [(_, .node tree)] => .ok (.inr tree)
      | _ => .error (.unexpectedToken t (expectedAt s.state))
    | none => .error (.unexpectedToken t (expectedAt s.state))

/-- Reads tokens from `cs` (at position `pos`) and feeds them to the
automaton until the specification is accepted or refused.  `last` is the
last token read. -/
def readFrom : Nat → Stack → List Char → Nat → Option Token → Except SpecSyntaxError SpecTree
  | 0, s, _, _, _ => .error (.unexpectedToken ⟨.finish, "", 1⟩ (expectedAt s.state))
  | fuel + 1, s, cs, pos, last =>
    let reductions := 2 * s.length + 8
    match scan (scannable s.state) cs pos with
    | .token t rest next =>
      match feed t reductions s with
      | .ok (.inl s') => readFrom fuel s' rest next (some t)
      | .ok (.inr tree) => .ok tree
      | .error e => .error e
    | .finished =>
      let column := (last.map (·.column)).getD 1
      match feed ⟨.finish, "", column⟩ reductions s with
      | .ok (.inr tree) => .ok tree
      | .ok (.inl s') => .error (.unexpectedToken ⟨.finish, "", column⟩ (expectedAt s'.state))
      | .error e => .error e
    | .refused t => .error (.unexpectedToken t (scannable s.state))
    | .stuck c p => .error (.unexpectedCharacter c p (scannable s.state) last)

/-- Reads a specification into its tree. -/
def readSpec (spec : String) : Except SpecSyntaxError SpecTree :=
  readFrom (spec.length + 2) [] spec.toList 0 none

/-! ## Reports -/

/-- The names of kinds of token as a set is written, e.g. `{'WORD', 'RSQB'}`. -/
def kindSet (ks : List Terminal) : String :=
  "\x7b" ++ ", ".intercalate (ks.map fun k => quote k.name) ++ "\x7d"

/-- The line around a position, with a caret under it: up to forty
characters before and after, cut at line breaks. -/
def caretContext (spec : List Char) (pos : Nat) : String :=
  let before := (spec.take pos).drop (pos - 40)
  let before := (before.reverse.takeWhile (· ≠ '\n')).reverse
  let after := ((spec.drop pos).take 40).takeWhile (· ≠ '\n')
  String.ofList (before ++ after) ++ "\n" ++ String.ofList (List.replicate before.length ' ') ++ "^\n"

/-- The text of a refusal of `spec`. -/
def SpecSyntaxError.describe (spec : String) : SpecSyntaxError → String
  | .unexpectedToken t expected =>
    "Unexpected token " ++ t.show ++ " at line 1, column " ++ toString t.column ++
      ".\nExpected one of: \n\t* " ++ "\n\t* ".intercalate (expected.map Terminal.name) ++ "\n"
  | .unexpectedCharacter c pos allowed previous =>
    "No terminal defined for '" ++ c.toString ++ "' at line 1 col " ++ toString (pos + 1) ++
      "\n\n" ++ caretContext spec.toList pos ++ "\nExpecting: " ++ kindSet allowed ++ "\n" ++
      ((previous.map fun t => "\nPrevious tokens: " ++ t.show ++ "\n").getD "")

end VoiceCommands.Recognition
