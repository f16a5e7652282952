import VoiceCommands.Recognition.Element

/-!
# Recognition by ordered backtracking

`Element.scan` enumerates the ways an element can match the words of an
utterance from a position, in a fixed order, and hands each one to a
continuation; the first continuation that succeeds ends the search.  The
order is the one users rely on:

* an optional part is tried present before absent;
* the choices of an alternative are tried in order;
* a repetition takes as many copies as it can before fewer;
* a list takes a phrase equal to the word at the position, then phrases of
  several words, compared with the words it has heard so far (see
  `scanPhrases`);
* dictation takes one word, then two, and so on.

Dictation only takes part when the utterance allows it (`Utterance.dictation`):
recognition first runs without dictation and only falls back to it when no
rule matches (see `VoiceCommands.Recognition.Grammar`).

`Element.recognize` keeps the first match that uses up every word.
-/

namespace VoiceCommands.Recognition

open Text

/-- The words being recognized (lowercase), and whether dictation may take
part in the recognition. -/
structure Utterance where
  words : Array String
  dictation : Bool
  deriving Repr, Inhabited

/-- Whether the words from position `i` on are `ws`, exactly. -/
def Utterance.saysAt (u : Utterance) : List String → Nat → Bool
  | [], _ => true
  | w :: ws, i => u.words[i]? == some w && u.saysAt ws (i + 1)

/-- The words of the utterance from position `i` to `j` (exclusive). -/
def Utterance.slice (u : Utterance) (i j : Nat) : List String :=
  (u.words.extract i j).toList

section
variable {α : Type}

/-- Optional copies of a repeated body, at most `extra` of them, more first. -/
def scanOptionalCopies (step : Nat → (Tree → Nat → Option α) → Option α) :
    Nat → Nat → List Tree → (Tree → Nat → Option α) → Option α
  | 0, i, acc, k => k (.rep acc.reverse) i
  | extra + 1, i, acc, k =>
    (step i fun t j => scanOptionalCopies step extra j (t :: acc) k) <|> k (.rep acc.reverse) i

/-- `least` required copies of a repeated body followed by `extra` optional ones. -/
def scanCopies (step : Nat → (Tree → Nat → Option α) → Option α) (extra : Nat) :
    Nat → Nat → List Tree → (Tree → Nat → Option α) → Option α
  | 0, i, acc, k => scanOptionalCopies step extra i acc k
  | least + 1, i, acc, k => step i fun t j => scanCopies step extra least j (t :: acc) k

/-- Dictation from position `i`: one word, then two, and so on. -/
def scanDictation (u : Utterance) (i : Nat) (k : Tree → Nat → Option α) : Option α :=
  (List.range (u.words.size - i)).findSome? fun n =>
    k (.dictation (u.slice i (i + n + 1))) (i + n + 1)

/-- Compares the words of a phrase, from the `j`-th on, with the words the
list has heard (`heard`, one per position counted from the start of the
list's match).  A word not yet heard is read at position `cursor + j` of the
utterance, and kept.  Gives whether every word agrees (stopping at the first
that does not), and the words heard afterwards. -/
def Utterance.compareHeard (u : Utterance) (cursor : Nat) :
    List String → List String → Nat → Bool × List String
  | [], heard, _ => (true, heard)
  | p :: ps, heard, j =>
    match heard[j]? with
    | some w => if w = p then u.compareHeard cursor ps heard (j + 1) else (false, heard)
    | none =>
      match u.words[cursor + j]? with
      | some w =>
        if w = p then u.compareHeard cursor ps (heard ++ [w]) (j + 1) else (false, heard ++ [w])
      | none => (false, heard)

/-- The phrases of a list made of several words, tried in list order after
the list has tried the word at its start (`start`) as a phrase of its own.
A phrase is split at single spaces and its words are compared with the words
the list has heard (`compareHeard`).  `cursor` is where the list's previous
match ended (`start` when there was none): words not heard before are read
from there on, and a match ends `cursor` plus the phrase's length words on,
taking every word from `start` up to there; the next phrase starts from that
end. -/
def scanPhrases (u : Utterance) (start : Nat) :
    List String → Nat → List String → (Tree → Nat → Option α) → Option α
  | [], _, _, _ => none
  | p :: ps, cursor, heard, k =>
    match splitOnSpace p with
    | parts@(_ :: _ :: _) =>
      let (agree, heard) := u.compareHeard cursor parts heard 0
      if agree then
        let stop := cursor + parts.length
        k (.phrase (u.slice start stop)) stop <|> scanPhrases u start ps stop heard k
      else scanPhrases u start ps cursor heard k
    | _ => scanPhrases u start ps cursor heard k

mutual
/-- Calls `k` on each match of the element at position `i`, in order, until
`k` succeeds. -/
def Element.scan (u : Utterance) : Element → Nat → (Tree → Nat → Option α) → Option α
  | .word w, i, k =>
    match u.words[i]? with
    | some x => if lower w = x then k (.word x) (i + 1) else none
    | none => none
  | .seq parts, i, k => Element.scanSeq u parts i [] k
  | .alt choices, i, k => Element.scanAlt u choices 0 i k
  | .opt body, i, k => (body.scan u i fun t j => k (.opt (some t)) j) <|> k (.opt none) i
  | .rep body least extra, i, k => scanCopies (fun j k' => body.scan u j k') extra least i [] k
  | .named n kind body, i, k => body.scan u i fun t j => k (.named n kind t) j
  | .rule n body, i, k => body.scan u i fun t j => k (.rule n t) j
  | .list _ phrases, i, k =>
    match u.words[i]? with
    | some w =>
      if phrases.contains w then
        k (.phrase [w]) (i + 1) <|> scanPhrases u i phrases (i + 1) [w] k
      else scanPhrases u i phrases i [w] k
    | none => none
  | .dictation, i, k => if u.dictation then scanDictation u i k else none
/-- Matches the parts of a sequence one after the other. -/
def Element.scanSeq (u : Utterance) : List Element → Nat → List Tree →
    (Tree → Nat → Option α) → Option α
  | [], i, acc, k => k (.seq acc.reverse) i
  | e :: es, i, acc, k => e.scan u i fun t j => Element.scanSeq u es j (t :: acc) k
/-- Tries the choices of an alternative in order. -/
def Element.scanAlt (u : Utterance) : List Element → Nat → Nat →
    (Tree → Nat → Option α) → Option α
  | [], _, _, _ => none
  | e :: es, idx, i, k =>
    (e.scan u i fun t j => k (.alt idx t) j) <|> Element.scanAlt u es (idx + 1) i k
end

end

/-- The first match of the element that uses up every word of the utterance. -/
def Element.recognize (e : Element) (u : Utterance) : Option Tree :=
  e.scan u 0 fun t j => if j = u.words.size then some t else none

end VoiceCommands.Recognition
