/-
  VersionPick.Selector.Parser — reading selectors, and why a text is none.

  The words ` and ` and ` or ` cut an expression into criteria wherever they occur,
  and must not occur both. Of the criteria that are wrong the first is reported; of
  a pattern, all slots that are wrong.
-/

import VersionPick.Selector.Basic
import VersionPick.Version.Parser

namespace VersionPick

inductive SelectorError where
  /-- There are fewer than two dots. -/
  | noPattern (text : String)
  | badSlots (text : String) (faults : List (Slot × SlotError))
  | badRank (text : String) (error : RankError)
  | mixed (text : String)
deriving DecidableEq, Repr

def faultMessage (fault : Slot × SlotError) : String :=
  "failed to validate " ++ fault.1.name ++ " pattern: " ++ fault.2.message

def SelectorError.message : SelectorError → String
  | .noPattern t => "can't convert " ++ Text.quote t ++ " to version pattern"
  | .badSlots t faults =>
    "invalid version pattern " ++ Text.quote t ++ ": " ++
      "; ".intercalate (faults.map faultMessage)
  | .badRank t e => "invalid global position filter " ++ Text.quote t ++ ": " ++ e.message
  | .mixed t => "filter " ++ Text.quote t ++ " combines \" and \" with \" or \", which is not supported"

def faultOf (slot : Slot) : Except SlotError SlotMatcher → List (Slot × SlotError)
  | .ok _ => []
  | .error e => [(slot, e)]

def VersionPattern.parse (text : String) : Except SelectorError VersionPattern :=
  match Version.parts? text.toList with
  | some (major, minor, some patch) =>
    let major := SlotMatcher.parse (String.ofList major)
    let minor := SlotMatcher.parse (String.ofList minor)
    let patch := SlotMatcher.parse (String.ofList patch)
    match major, minor, patch with
    | .ok major, .ok minor, .ok patch => .ok { major, minor, patch }
    | _, _, _ =>
      .error (.badSlots text
        (faultOf .major major ++ faultOf .minor minor ++ faultOf .patch patch))
  | _ => .error (.noPattern text)

/-- A rank that stands alone, and so counts among all versions. -/
def Rank.parseAlone (text : String) : Except SelectorError Rank :=
  (Rank.parse text).mapError (.badRank text)

def Criterion.parse (text : String) : Except SelectorError Criterion :=
  if Rank.isMeant text then (Rank.parseAlone text).map .rank
  else (VersionPattern.parse text).map .pattern

namespace Selector

def criteria (word text : String) : Except SelectorError (List Criterion) :=
  (Text.pieces word.toList text.toList).mapM fun piece => Criterion.parse (String.ofList piece)

def parse (text : String) : Except SelectorError Selector :=
  if text.isEmpty then .ok everything
  else
    match Text.occurs andWord.toList text.toList, Text.occurs orWord.toList text.toList with
    | true, true => .error (.mixed text)
    | true, false => (criteria andWord text).map allOf
    | false, true => (criteria orWord text).map anyOf
    | false, false => (Criterion.parse text).map one

end Selector

end VersionPick
