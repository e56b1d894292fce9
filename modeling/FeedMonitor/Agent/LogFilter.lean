import FeedMonitor.Journal
import FeedMonitor.Number.Numeral
import FeedMonitor.Text.Blank
import FeedMonitor.Text.Split

/-!
Which lines of a log are shown.

A filter is a list of rules between commas. A rule is a level, for every source, or a source, or a
source and a level with an equals sign between them. The rule with the longest source that a line's
source starts with decides, and of several such rules the last one. A line without a rule is not
shown. A list with a part that is no rule is no filter.
-/

namespace FeedMonitor

/-- How much of a source is shown: lines of a least severity or nothing. -/
abbrev LogLevel := Option Severity

namespace LogLevel

def words : List (String × LogLevel) :=
  [("off", none), ("error", some .error), ("warn", some .warn), ("info", some .info),
    ("debug", some .debug), ("trace", some .debug)]

/-- The levels by number. -/
def scale : List LogLevel :=
  [none, some .error, some .warn, some .info, some .debug, some .debug]

/-- A level by number or by its name in any ASCII case. -/
def parse? (text : String) : Option LogLevel :=
  match (Numeral.unsigned? 5 text).bind (scale[·]?) with
  | some level => some level
  | none => words.lookup (Text.asciiLower text)

def shows (level : LogLevel) (severity : Severity) : Bool :=
  level.any fun least => least.rank ≤ severity.rank

end LogLevel

structure LogFilter.Rule where
  /-- How the sources begin for which it is. -/
  source : String
  level : LogLevel
deriving DecidableEq

abbrev LogFilter := List LogFilter.Rule

namespace LogFilter

/-- What a rule may begin with; every character outside ASCII counts as a letter. -/
def startsRule (c : Char) : Bool :=
  c.isAlphanum || c = '-' || c = ':' || c = '_' || 0x80 ≤ c.toNat

/-- The rule that a part of a filter states. A source alone is shown whole. -/
def Rule.parse? (part : String) : Option Rule :=
  if !(Text.trim part).toList.head?.any startsRule then none
  else
    match LogLevel.parse? part with
    | some level => some ⟨"", level⟩
    | none =>
      match Text.splitOn '=' part.toList with
      | [source] | [source, []] => some ⟨String.ofList source, some .debug⟩
      | [source, level] =>
        (LogLevel.parse? (String.ofList level)).map fun level => ⟨String.ofList source, level⟩
      | _ => none

/-- The rules between the commas of a text. -/
def parse? (text : String) : Option LogFilter :=
  ((Text.splitOn ',' text.toList).filter fun part => !part.isEmpty).mapM fun part =>
    Rule.parse? (String.ofList part)

def Rule.concerns (rule : Rule) (source : String) : Bool :=
  rule.source.toList.isPrefixOf source.toList

/-- The rule that decides about a source. -/
def rule? (filter : LogFilter) (source : String) : Option Rule :=
  filter.foldl (fun best rule =>
    if rule.concerns source && best.all fun other => other.source.length ≤ rule.source.length then
      some rule
    else best) none

def shows (filter : LogFilter) (entry : Journal.Entry) : Bool :=
  (filter.rule? entry.source.name).any fun rule => rule.level.shows entry.severity

end LogFilter

end FeedMonitor
