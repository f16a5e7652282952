import VoiceCommands.Text.Words

/-!
# Grammar elements and parse trees

A voice grammar describes the utterances it accepts by *elements*: spoken
words, sequences, alternatives, optional parts, bounded repetitions, lists of
phrases and free dictation.  Recognizing an utterance against an element
yields a *parse tree* (`Tree`) with one node per element that took part.

* `Element`: the grammar language.  References to other rules are resolved
  when a grammar is built, so an element is a finite tree.
* `Extra`: how the value of a named part is read (a number, digits,
  dictated words).
* `Tree`: what was recognized; `Tree.words` gives back the spoken words.
* `Tree.find?`: the first part with a given name, not looking inside other
  named parts.
-/

namespace VoiceCommands.Recognition

/-- How the value of a named part of an utterance is read. -/
inductive Extra where
  /-- A spoken number (`twenty one`). -/
  | integer
  /-- A run of spoken digits read as one number (`four two` is 42). -/
  | digits
  /-- Free dictation: the words themselves. -/
  | dictation
  /-- A part with a value of its own kind (a rule, a list, a choice). -/
  | plain
  deriving Repr, DecidableEq, Inhabited

/-- A grammar element. -/
inductive Element where
  /-- One spoken word (compared without case). -/
  | word (w : String)
  /-- The parts one after the other. -/
  | seq (parts : List Element)
  /-- The first choice that leads to a complete recognition. -/
  | alt (choices : List Element)
  /-- The body, or nothing; the body is tried first. -/
  | opt (body : Element)
  /-- At least `least` copies of the body, then up to `extra` more; more
  copies are tried first. -/
  | rep (body : Element) (least extra : Nat)
  /-- A part of the grammar with a name, read as `kind`. -/
  | named (name : String) (kind : Extra) (body : Element)
  /-- The element of another rule. -/
  | rule (name : String) (body : Element)
  /-- A list of phrases, in list order (see `Element.scan` for how a
  phrase is heard). -/
  | list (name : String) (phrases : List String)
  /-- One or more freely dictated words. -/
  | dictation
  deriving Repr, Inhabited

/-- What was recognized for an element. -/
inductive Tree where
  /-- A spoken word. -/
  | word (w : String)
  /-- The trees of the parts of a sequence. -/
  | seq (parts : List Tree)
  /-- The choice taken (by position) and its tree. -/
  | alt (index : Nat) (choice : Tree)
  /-- The tree of the body of an optional part, if it was present. -/
  | opt (body : Option Tree)
  /-- The trees of the copies of a repeated body. -/
  | rep (items : List Tree)
  /-- A named part. -/
  | named (name : String) (kind : Extra) (body : Tree)
  /-- The tree of another rule. -/
  | rule (name : String) (body : Tree)
  /-- The words a list took. -/
  | phrase (words : List String)
  /-- Dictated words. -/
  | dictation (words : List String)
  deriving Repr, Inhabited

mutual
/-- The spoken words of a tree, in order. -/
def Tree.words : Tree → List String
  | .word w => [w]
  | .seq parts => Tree.wordsAll parts
  | .alt _ t => t.words
  | .opt none => []
  | .opt (some t) => t.words
  | .rep items => Tree.wordsAll items
  | .named _ _ t => t.words
  | .rule _ t => t.words
  | .phrase ws => ws
  | .dictation ws => ws
/-- The spoken words of a list of trees. -/
def Tree.wordsAll : List Tree → List String
  | [] => []
  | t :: ts => t.words ++ Tree.wordsAll ts
end

mutual
/-- The first named part called `name`, searching depth first and not looking
inside other named parts. -/
def Tree.find? (name : String) : Tree → Option Tree
  | .named n k t => if n = name then some (.named n k t) else none
  | .seq parts => Tree.findAll? name parts
  | .alt _ t => t.find? name
  | .opt none => none
  | .opt (some t) => t.find? name
  | .rep items => Tree.findAll? name items
  | .rule _ t => t.find? name
  | .word _ | .phrase _ | .dictation _ => none
/-- The first named part called `name` in a list of trees. -/
def Tree.findAll? (name : String) : List Tree → Option Tree
  | [] => none
  | t :: ts => (t.find? name).orElse fun _ => Tree.findAll? name ts
end

/-- The body of a named part (a named part's own tree without its name). -/
def Tree.body : Tree → Tree
  | .named _ _ t => t
  | t => t

/-- The tree inside rule and name wrappers, or the tree itself. -/
def Tree.inner : Tree → Tree
  | .rule _ t => t.inner
  | .named _ _ t => t.inner
  | t => t

/-- The named part called `name` directly below the root of a rule's tree. -/
def Tree.part? (t : Tree) (name : String) : Option Tree :=
  (t.inner.find? name).map Tree.body

/-- The body of an optional part, when it was spoken. -/
def Tree.present? : Tree → Option Tree
  | .opt t => t
  | _ => none

/-- The choice taken by an alternative (looking through rule and name
wrappers), by position, with its tree. -/
def Tree.choice? (t : Tree) : Option (Nat × Tree) :=
  match t.inner with
  | .alt i c => some (i, c)
  | _ => none

/-- The parts of a sequence (a single part if the tree is not a sequence). -/
def Tree.parts : Tree → List Tree
  | .seq ps => ps
  | t => [t]

end VoiceCommands.Recognition
