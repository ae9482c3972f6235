import Lodging.Notice
import Lodging.Text.Blank
import Lodging.Text.Digits
import Lodging.Text.Parts

/-!
# Filtering notices

A filter is a list of rules with commas between them. A rule names a source, a level, or both with
an equality sign between them, and lets notices of that level and graver ones pass. Of the rules
whose source begins the source of a notice, the longest decides, and without any the notice is
dropped.

A rule may also name a span in brackets. It concerns only notices inside that span, and since the
service has none, such a rule lets nothing pass.
-/

namespace Lodging

open Lodging.Text

/-- A rule: sources that begin with `source` pass up to a rank, where zero lets nothing pass. -/
structure NoticeRule where
  source : List Char
  rank : Nat
deriving DecidableEq

structure NoticeFilter where
  rules : List NoticeRule
deriving DecidableEq

namespace NoticeRule

/-- The rank of a level that is named by its word in any letter case or by its number; `off` lets
nothing pass. -/
def readRank? (cs : List Char) : Option Nat :=
  let word := (String.ofList cs).map Char.toUpper
  match readUnsigned 6 (String.ofList cs) with
  | some n => some n
  | none =>
    if word = "OFF" then some 0
    else if word = "" then some NoticeLevel.error.rank
    else (NoticeLevel.all.find? (·.word = word)).map (·.rank)

/-- The rank of the level behind an equality sign. No level at all stands for every level. -/
def readLimit? (cs : List Char) : Option Nat :=
  if cs.isEmpty then some NoticeLevel.trace.rank else readRank? cs

/-- The characters with which a rule may begin, brackets aside. -/
def mayBegin (c : Char) : Bool :=
  c.isAlphanum || c == '-' || c == ':' || c == '_' || 0x80 ≤ c.toNat

/-- Whether brackets that were opened before `cs` are closed, with nothing behind them but a
level. -/
def closesSpan (cs : List Char) : Bool :=
  match cs.dropWhile (· ≠ ']') with
  | [']'] => true
  | ']' :: '=' :: level => (readLimit? level).isSome
  | _ => false

/-- Reads one rule. The outer option fails for a text that is no rule; the inner one is empty for a
rule about a span. -/
def read? (cs : List Char) : Option (Option NoticeRule) :=
  match cs with
  | [] => some (some ⟨[], NoticeLevel.trace.rank⟩)
  | '[' :: rest => if closesSpan rest then some none else none
  | c :: _ =>
    if mayBegin c then
      let source := cs.takeWhile fun c => c ≠ '=' && c ≠ '['
      match cs.dropWhile fun c => c ≠ '=' && c ≠ '[' with
      | '=' :: level => (readLimit? level).map fun rank => some ⟨source, rank⟩
      | '[' :: rest => if closesSpan rest then some none else none
      | _ =>
        match readRank? source with
        | some rank => some (some ⟨[], rank⟩)
        | none => some (some ⟨source, NoticeLevel.trace.rank⟩)
    else none

end NoticeRule

namespace NoticeFilter

def upTo (level : NoticeLevel) : NoticeFilter := ⟨[⟨[], level.rank⟩]⟩

/-- Reads a filter. One without any rule shows errors alone. -/
def read? (s : String) : Option NoticeFilter :=
  let texts := (partsAt ',' s.toList).filter fun cs => !cs.isEmpty
  (texts.mapM fun cs => NoticeRule.read? (trimBlanks (String.ofList cs)).toList).map fun rules =>
    if rules.isEmpty then upTo .error else ⟨rules.filterMap id⟩

/-- The filter of a service: what its environment says, or notices of interest and above. -/
def ofSetting (setting : Option String) : NoticeFilter :=
  (setting.bind read?).getD (upTo .info)

/-- The rule that decides about a source: the longest whose source begins it, and of equal ones the
last. -/
def deciding? (filter : NoticeFilter) (source : String) : Option NoticeRule :=
  (filter.rules.filter fun rule => rule.source.isPrefixOf source.toList).foldl
    (fun best rule => match best with
      | some b => if rule.source.length < b.source.length then some b else some rule
      | none => some rule) none

def shows (filter : NoticeFilter) (n : Notice) : Bool :=
  (filter.deciding? n.source).any (n.level.rank ≤ ·.rank)

end NoticeFilter

end Lodging
