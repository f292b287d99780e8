import SwapDesk.Regex.Parse

/-! # Checking a pattern

A pattern that reads may still be refused, at its first finding in this order: parts nested
beyond `nestLimit`, a part whose meaning needs a Unicode table that is not at hand (or, with
Unicode off, could match bytes that are no UTF-8 text), and a Unicode word boundary the automata
cannot run. Flags hold for the rest of the enclosing group, across its later branches.
-/

namespace SwapDesk.Regex

def nestLimit : Nat := 250

mutual

/-- The span of the first part nested deeper than `limit`, `depth` parts enclosing the
node. -/
def Node.tooDeep? (limit depth : Nat) : Node → Option Span
  | .bracketed s _ set => if limit < depth + 1 then some s else set.tooDeep? limit (depth + 1)
  | .repetition s _ _ inner =>
    if limit < depth + 1 then some s else inner.tooDeep? limit (depth + 1)
  | .group s _ inner => if limit < depth + 1 then some s else inner.tooDeep? limit (depth + 1)
  | .alternation s bs =>
    if limit < depth + 1 then some s else Node.listTooDeep? limit (depth + 1) bs
  | .concat s items =>
    if limit < depth + 1 then some s else Node.listTooDeep? limit (depth + 1) items
  | _ => none

def Node.listTooDeep? (limit depth : Nat) : List Node → Option Span
  | [] => none
  | n :: rest => (n.tooDeep? limit depth).orElse fun _ => Node.listTooDeep? limit depth rest

def ClassSet.tooDeep? (limit depth : Nat) : ClassSet → Option Span
  | .item i => i.tooDeep? limit depth
  | .binaryOp s _ l r =>
    if limit < depth + 1 then some s
    else (l.tooDeep? limit (depth + 1)).orElse fun _ => r.tooDeep? limit (depth + 1)

def ClassItem.tooDeep? (limit depth : Nat) : ClassItem → Option Span
  | .bracketed s _ set => if limit < depth + 1 then some s else set.tooDeep? limit (depth + 1)
  | .union s items =>
    if limit < depth + 1 then some s else ClassItem.listTooDeep? limit (depth + 1) items
  | _ => none

def ClassItem.listTooDeep? (limit depth : Nat) : List ClassItem → Option Span
  | [] => none
  | i :: rest => (i.tooDeep? limit depth).orElse fun _ => ClassItem.listTooDeep? limit depth rest

end

/-! ## Meaning -/

/-- What a check has learnt so far: the flags in force, and whether a word boundary that
looks at Unicode word characters has been seen. -/
structure Meaning where
  unicode : Bool := true
  caseInsensitive : Bool := false
  unicodeWordBoundary : Bool := false

def Meaning.withFlags (m : Meaning) (fs : Flags) : Meaning :=
  { m with
    unicode := (flagState fs .unicode).getD m.unicode
    caseInsensitive := (flagState fs .caseInsensitive).getD m.caseInsensitive }

/-- Whether Unicode case folding is asked for; no folding table is at hand, so a fold of
anything fails. -/
def Meaning.foldsUnicode (m : Meaning) : Bool := m.unicode && m.caseInsensitive

def refuse (kind : ErrorKind) (span : Span) : Except SyntaxError Unit :=
  .error { kind, span }

/-- The check of a Unicode class: no property table is at hand, so with Unicode on every
name is unknown. -/
def UnicodeClass.check (m : Meaning) (c : UnicodeClass) : Except SyntaxError Unit :=
  if !m.unicode then refuse .unicodeNotAllowed c.span
  else refuse .unicodePropertyNotFound c.span

/-- The check of a Perl class: with Unicode on it needs a table that is not at hand; with
Unicode off its complement takes in bytes beyond ASCII. -/
def checkPerl (m : Meaning) (negated : Bool) (span : Span) : Except SyntaxError Unit :=
  if m.unicode then refuse .unicodePerlClassNotFound span
  else if negated then refuse .invalidUtf8 span
  else pure ()

/-- The check of a literal inside a class: with Unicode off, only ASCII. -/
def Literal.checkInClass (m : Meaning) (l : Literal) : Except SyntaxError Unit :=
  if m.unicode || l.char.toNat < 128 then pure ()
  else if l.byteEscape then refuse .invalidUtf8 l.span
  else refuse .unicodeNotAllowed l.span

/-- The fold and complement of a class: with Unicode on, folding a class that holds
anything fails; with Unicode off, a complement takes in bytes beyond ASCII. -/
def checkFold (m : Meaning) (nonEmpty negated : Bool) (span : Span) :
    Except SyntaxError Unit :=
  if m.unicode then
    if m.caseInsensitive && nonEmpty then refuse .unicodeCaseUnavailable span else pure ()
  else if negated then refuse .invalidUtf8 span
  else pure ()

mutual

/-- Whether a class set holds anything before it is folded; a set operation is asked only
when neither side held anything. -/
def ClassSet.holds : ClassSet → Bool
  | .item i => i.holds
  | .binaryOp _ _ l r => l.holds || r.holds

def ClassItem.holds : ClassItem → Bool
  | .empty _ => false
  | .bracketed _ negated set => negated || set.holds
  | .union _ items => ClassItem.listHolds items
  | _ => true

def ClassItem.listHolds : List ClassItem → Bool
  | [] => false
  | i :: rest => i.holds || ClassItem.listHolds rest

end

mutual

/-- Checks a node, the parts in reading order; gives what holds after it. -/
def Node.check (m : Meaning) : Node → Except SyntaxError Meaning
  | .empty _ => pure m
  | .setFlags _ fs => pure (m.withFlags fs)
  | .literal l => do
    if !m.unicode && l.byteEscape && 127 < l.char.toNat then refuse .invalidUtf8 l.span
    if m.foldsUnicode then refuse .unicodeCaseUnavailable l.span
    pure m
  | .dot s => do
    if !m.unicode then refuse .invalidUtf8 s
    pure m
  | .assertion _ k =>
    pure { m with unicodeWordBoundary := m.unicodeWordBoundary || (m.unicode && k.looksAtWords) }
  | .unicodeClass c => do c.check m; pure m
  | .perlClass s _ negated => do checkPerl m negated s; pure m
  | .bracketed s negated set => do
    set.check m
    checkFold m set.holds negated s
    pure m
  | .repetition _ _ _ inner => inner.check m
  | .group _ kind inner => do
    let inside ← inner.check (match kind.flags? with | some fs => m.withFlags fs | none => m)
    pure { inside with unicode := m.unicode, caseInsensitive := m.caseInsensitive }
  | .alternation _ bs => Node.listCheck m bs
  | .concat _ items => Node.listCheck m items

def Node.listCheck (m : Meaning) : List Node → Except SyntaxError Meaning
  | [] => pure m
  | n :: rest => do Node.listCheck (← n.check m) rest

/-- Checks the inside of a class; after both sides of a set operation, folding each,
the right one first. -/
def ClassSet.check (m : Meaning) : ClassSet → Except SyntaxError Unit
  | .item i => i.check m
  | .binaryOp _ _ l r => do
    l.check m
    r.check m
    if m.foldsUnicode && r.holds then refuse .unicodeCaseUnavailable r.span
    if m.foldsUnicode && l.holds then refuse .unicodeCaseUnavailable l.span

def ClassItem.check (m : Meaning) : ClassItem → Except SyntaxError Unit
  | .empty _ => pure ()
  | .literal l => l.checkInClass m
  | .range _ a b => do a.checkInClass m; b.checkInClass m
  | .ascii s _ negated => checkFold m true negated s
  | .unicode c => c.check m
  | .perl s _ negated => checkPerl m negated s
  | .bracketed s negated set => do set.check m; checkFold m set.holds negated s
  | .union _ items => ClassItem.listCheck m items

def ClassItem.listCheck (m : Meaning) : List ClassItem → Except SyntaxError Unit
  | [] => pure ()
  | i :: rest => do i.check m; ClassItem.listCheck m rest

end

/-! ## The whole check -/

inductive PatternFault where
  /-- a fault found while reading or checking, shown with the pattern -/
  | invalid (e : SyntaxError)
  /-- a word boundary that looks at Unicode word characters -/
  | unicodeWordBoundary
  deriving DecidableEq, Repr

/-- The first fault of a pattern, if any: in reading, in nesting, in meaning, or a word
boundary the automata cannot run. -/
def fault? (pattern : String) : Option PatternFault :=
  match parse pattern with
  | .error e => some (.invalid e)
  | .ok n =>
    match n.tooDeep? nestLimit 0 with
    | some s => some (.invalid { kind := .nestLimitExceeded nestLimit, span := s })
    | none =>
      match n.check {} with
      | .error e => some (.invalid e)
      | .ok m => if m.unicodeWordBoundary then some .unicodeWordBoundary else none

end SwapDesk.Regex
