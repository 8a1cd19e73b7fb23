import PromptTemplates.Journal

/-!
# Thresholds

A threshold says which events of a journal are shown: all of them, or those of a level and above. It is
chosen by a word, in capital or small letters.
-/

namespace PromptTemplates

/-- The least level that is shown. -/
inductive Threshold where
  | all
  | atLeast (least : Level)
  deriving DecidableEq, Repr

namespace Threshold

/-- The name of a threshold. -/
def name : Threshold → String
  | .all => "NOTSET"
  | .atLeast .debug => "DEBUG"
  | .atLeast .info => "INFO"
  | .atLeast .warning => "WARNING"
  | .atLeast .error => "ERROR"
  | .atLeast .critical => "CRITICAL"

/-- The words that choose a threshold, in capitals: the names, and two that stand for another one. -/
def words : List (String × Threshold) :=
  let named := [all, .atLeast .debug, .atLeast .info, .atLeast .warning, .atLeast .error,
    .atLeast .critical].map fun t => (t.name, t)
  named ++ [("WARN", .atLeast .warning), ("FATAL", .atLeast .critical)]

/-- The capital of a letter whose capital is an ASCII letter. The dotless i and the long s have one. -/
def capital (c : Char) : Char :=
  if c = 'ı' then 'I' else if c = 'ſ' then 'S' else c.toUpper

/-- The threshold that a word chooses. An unknown word chooses warnings. -/
def ofWord (word : String) : Threshold :=
  (words.lookup (word.map capital)).getD (.atLeast .warning)

/-- Whether an event is shown. -/
def shows : Threshold → Event → Bool
  | .all, _ => true
  | .atLeast least, e => least.rank ≤ e.level.rank

end Threshold

end PromptTemplates
