/-
  VersionPick.Unicode.Property — sets of characters by the name of a property.

  Names are compared loosely: case, blanks, hyphens and underscores do not count,
  nor does an `is` in front. A name alone is that of a trait, a general category
  or a script, tried in this order; a name with a value asks for a category, a
  script, the characters used with a script, those that are as old as a version
  of Unicode, or those that are in a class of the rules for dividing text.
-/

import VersionPick.Unicode.Additions
import VersionPick.Unicode.Age
import VersionPick.Unicode.GraphemeBreak
import VersionPick.Unicode.ScriptExtension
import VersionPick.Unicode.SentenceBreak

namespace VersionPick.Unicode

/-- A name without what does not count in it. `isc` is a name of its own. -/
def looseName (name : List Char) : List Char :=
  let bare (cs : List Char) : List Char :=
    (cs.filter fun c => c.toNat < 128 && c != ' ' && c != '_' && c != '-').map Char.toLower
  match name with
  | i :: s :: rest =>
    if i.toLower = 'i' && s.toLower = 's' then
      if bare rest = ['c'] then ['i', 's', 'c'] else bare rest
    else bare name
  | _ => bare name

def hasName (loose : List Char) (names : List String) : Bool :=
  names.any fun n => looseName n.toList == loose

def namedSet? (loose : List Char) (sets : List NamedSet) : Option CharSet :=
  (sets.find? fun s => hasName loose s.names).map (·.set)

def unassigned : CharSet := inCategories ["Cn"]

/-- The characters of a group of categories. Surrogates go with the private use characters after
    them. -/
def groupSet (short : List String) : CharSet :=
  if short.contains "Co" then (inCategories short).union (.range 0xD800 0xDFFF)
  else inCategories short

/-- The characters of a category, of a group of categories, or of one of the three classes that
    are named like categories: `any`, `assigned` and `ascii`. -/
def categorySet? (loose : List Char) : Option CharSet :=
  if loose = "any".toList then some .all
  else if loose = "assigned".toList then some unassigned.compl
  else if loose = "ascii".toList then some (.range 0 127)
  else
    (namedSet? loose categories).or
      ((categoryGroups.find? fun g => hasName loose g.1).map fun g => groupSet g.2)

def scriptSet? (loose : List Char) : Option CharSet := namedSet? loose scripts

def usedWithScript? (loose : List Char) : Option CharSet :=
  (namedSet? loose scriptExtensions).or (scriptSet? loose)

def ageSet? (loose : List Char) : Option CharSet :=
  (ages.findIdx? fun s => hasName loose s.names).map fun i =>
    .unionAll ((ages.take (i + 1)).map (·.set))

def graphemeBreakSet? (loose : List Char) : Option CharSet :=
  (GraphemeBreak.all.find? fun b => hasName loose b.names).map (·.chars)

def wordBreakSet? (loose : List Char) : Option CharSet :=
  (WordBreak.all.find? fun b => hasName loose b.names).map (·.chars)

def sentenceBreakSet? (loose : List Char) : Option CharSet :=
  (SentenceBreak.all.find? fun b => hasName loose b.names).map (·.chars)

/-- The characters of the property that a name alone stands for. Three categories have short names
    that are also those of properties with values, and mean the categories. -/
def propertySet? (name : List Char) : Option CharSet :=
  let loose := looseName name
  let asTrait := if loose = ['c', 'f'] || loose = ['s', 'c'] || loose = ['l', 'c'] then none
    else namedSet? loose traits
  asTrait.or ((categorySet? loose).or (scriptSet? loose))

/-- Properties of whose values no set is kept. -/
def otherProperties : List String :=
  ["Bidi_Class", "bc", "Bidi_Mirroring_Glyph", "bmg", "Bidi_Paired_Bracket", "bpb",
   "Bidi_Paired_Bracket_Type", "bpt", "Block", "blk", "Canonical_Combining_Class", "ccc",
   "Case_Folding", "cf", "Composition_Exclusion", "CE", "Decomposition_Mapping", "dm",
   "Decomposition_Type", "dt", "East_Asian_Width", "ea", "Equivalent_Unified_Ideograph", "EqUIdeo",
   "Expands_On_NFC", "XO_NFC", "Expands_On_NFD", "XO_NFD", "Expands_On_NFKC", "XO_NFKC",
   "Expands_On_NFKD", "XO_NFKD", "FC_NFKC_Closure", "FC_NFKC", "Full_Composition_Exclusion",
   "Comp_Ex", "Grapheme_Link", "Gr_Link", "Hangul_Syllable_Type", "hst", "Hyphen", "ISO_Comment",
   "isc", "Indic_Conjunct_Break", "InCB", "Indic_Positional_Category", "InPC",
   "Indic_Syllabic_Category", "InSC", "Jamo_Short_Name", "JSN", "Joining_Group", "jg",
   "Joining_Type", "jt", "Line_Break", "lb", "Lowercase_Mapping", "lc", "NFC_Quick_Check", "NFC_QC",
   "NFD_Quick_Check", "NFD_QC", "NFKC_Casefold", "NFKC_CF", "NFKC_Quick_Check", "NFKC_QC",
   "NFKC_Simple_Casefold", "NFKC_SCF", "NFKD_Quick_Check", "NFKD_QC", "Name", "na", "Name_Alias",
   "Numeric_Type", "nt", "Numeric_Value", "nv", "Other_Alphabetic", "OAlpha",
   "Other_Default_Ignorable_Code_Point", "ODI", "Other_Grapheme_Extend", "OGr_Ext",
   "Other_ID_Continue", "OIDC", "Other_ID_Start", "OIDS", "Other_Lowercase", "OLower", "Other_Math",
   "OMath", "Other_Uppercase", "OUpper", "Simple_Case_Folding", "scf", "sfc",
   "Simple_Lowercase_Mapping", "slc", "Simple_Titlecase_Mapping", "stc", "Simple_Uppercase_Mapping",
   "suc", "Titlecase_Mapping", "tc", "Unicode_1_Name", "na1", "Uppercase_Mapping", "uc",
   "Vertical_Orientation", "vo", "kAccountingNumeric", "cjkAccountingNumeric",
   "kCompatibilityVariant", "cjkCompatibilityVariant", "kIICore", "cjkIICore", "kIRG_GSource",
   "cjkIRG_GSource", "kIRG_HSource", "cjkIRG_HSource", "kIRG_JSource", "cjkIRG_JSource",
   "kIRG_KPSource", "cjkIRG_KPSource", "kIRG_KSource", "cjkIRG_KSource", "kIRG_MSource",
   "cjkIRG_MSource", "kIRG_SSource", "cjkIRG_SSource", "kIRG_TSource", "cjkIRG_TSource",
   "kIRG_UKSource", "cjkIRG_UKSource", "kIRG_USource", "cjkIRG_USource", "kIRG_VSource",
   "cjkIRG_VSource", "kOtherNumeric", "cjkOtherNumeric", "kPrimaryNumeric", "cjkPrimaryNumeric",
   "kRSUnicode", "cjkRSUnicode", "Unicode_Radical_Stroke", "URS"]

def valueSets : List (List String × (List Char → Option CharSet)) :=
  [(["General_Category", "gc"], categorySet?), (["Script", "sc"], scriptSet?),
   (["Script_Extensions", "scx"], usedWithScript?), (["Age"], ageSet?),
   (["Grapheme_Cluster_Break", "GCB"], graphemeBreakSet?), (["Word_Break", "WB"], wordBreakSet?),
   (["Sentence_Break", "SB"], sentenceBreakSet?)]

def propertyValueSet? (name value : List Char) : Option CharSet :=
  (valueSets.find? fun p => hasName (looseName name) p.1).bind fun p => p.2 (looseName value)

def isProperty (name : List Char) : Bool :=
  let loose := looseName name
  valueSets.any (fun p => hasName loose p.1) || hasName loose otherProperties ||
    traits.any fun t => hasName loose t.names

/-! ## Kinds of characters -/

def spaces : CharSet := trait "White_Space"

def decimalDigits : CharSet := inCategories ["Nd"]

def wordChars : CharSet :=
  .unionAll [trait "Alphabetic", trait "Join_Control", inCategories ["Mn", "Mc", "Me", "Nd", "Pc"]]

def letters : CharSet := (trait "Alphabetic").union addedLetters

def numbers : CharSet := (inCategories ["Nd", "Nl", "No"]).union addedNumbers

/-- Characters that combine with the one before them, of every version of Unicode. The halfwidth
    Katakana sound marks, which stand by themselves, are none. -/
def combining : CharSet :=
  ((trait "Grapheme_Extend").union addedCombining).diff (.range 0xFF9E 0xFF9F)

/-- Controls, formats, separators, characters for private use, those that are blank by intent, and
    what no version of Unicode assigns. -/
def invisible : CharSet :=
  .union
    ((inCategories ["Cc", "Cf", "Co", "Zl", "Zp", "Zs"]).union
      (trait "Default_Ignorable_Code_Point"))
    (unassigned.diff addedChars)

end VersionPick.Unicode
