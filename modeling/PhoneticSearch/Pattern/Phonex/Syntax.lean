import PhoneticSearch.Pattern.Quantifier
import PhoneticSearch.Transcription.Element

/-!
# Phonex expressions

A phonex expression describes sequences of phones.  Its smallest parts are phone
matchers, which test one phone by its features, its glyphs or its constituent;
these are put together by sequence, alternatives and repetition.
-/

namespace PhoneticSearch.Phonex

/-- A test of one phone. -/
inductive PhoneMatcher where
  | any
  | consonant
  | vowel
  | glide
  /-- Any consonant or vowel. -/
  | segment
  /-- Any phone with all of some features and none of others. -/
  | features (having lacking : FeatureSet)
  /-- The phone with these base glyphs, whatever its diacritics. -/
  | base (glyphs : Text)
  /-- The phone that is written in this way. -/
  | exact (text : Text)
  /-- A phone that one of the members accepts, or none of them. -/
  | oneOf (negated : Bool) (members : List PhoneMatcher)
  /-- A phone of a constituent. -/
  | within (inner : PhoneMatcher) (constituent : Constituent)

namespace PhoneMatcher

mutual

/-- Whether a matcher accepts a phone. -/
def accepts : PhoneMatcher → Phone → Bool
  | any, _ => true
  | consonant, p => p.isConsonant && !p.isGlide
  | vowel, p => p.isVowel
  | glide, p => p.isGlide
  | segment, p => p.isConsonant || p.isVowel
  | features having lacking, p => p.features.containsAll having && !p.features.intersects lacking
  | base glyphs, p => p.base == glyphs
  | exact text, p => p.text == text
  | oneOf negated members, p => someAccepts members p != negated
  | within inner c, p => p.constituent == c && inner.accepts p

/-- Whether one of the matchers accepts a phone. -/
def someAccepts : List PhoneMatcher → Phone → Bool
  | [], _ => false
  | m :: rest, p => m.accepts p || someAccepts rest p

end

end PhoneMatcher

/-- A test of one element. -/
inductive ElementMatcher where
  | phone (m : PhoneMatcher)
  | wordBoundary

/-- Whether a test accepts an element. -/
def ElementMatcher.accepts : ElementMatcher → Element → Bool
  | phone m, .phone p => m.accepts p
  | wordBoundary, .wordBoundary => true
  | _, _ => false

/-- A phonex expression. -/
inductive Node where
  /-- One element. -/
  | element (m : ElementMatcher)
  /-- One of the branches, each a sequence. -/
  | alternatives (branches : List (List Node))
  /-- A node repeated. -/
  | repeated (node : Node) (quantifier : Quantifier)
  /-- The start of the searched value. -/
  | start
  /-- The end of the searched value. -/
  | stop

/-- Why a text is no phonex expression. -/
inductive Fault where
  | unexpected (c : Char)
  | emptyExpression
  | nothingToRepeat (c : Char)
  | unclosedGroup
  | emptyGroup
  | missingConstituent
  | missingMatcher
  | unknownEscape (c : Char)
  | danglingEscape
  | diacriticWithoutBase
  | unclosedFeatures
  | unknownFeature (name : Text)
  | emptyFeatures
  | unclosedClass
  | emptyClass
deriving DecidableEq

/-- The message of a fault. -/
def Fault.message : Fault → String
  | unexpected c => "unexpected '" ++ c.toString ++ "'"
  | emptyExpression => "empty phonex expression"
  | nothingToRepeat c => "nothing to repeat before '" ++ c.toString ++ "'"
  | unclosedGroup => "unclosed group"
  | emptyGroup => "empty group"
  | missingConstituent => "expected syllable constituent after ':'"
  | missingMatcher => "expected phone matcher"
  | unknownEscape c => "unknown escape '\\" ++ c.toString ++ "'"
  | danglingEscape => "dangling escape"
  | diacriticWithoutBase => "diacritic without base glyph"
  | unclosedFeatures => "unclosed feature set"
  | unknownFeature name => Feature.unknownMessage name
  | emptyFeatures => "empty feature set"
  | unclosedClass => "unclosed class"
  | emptyClass => "empty class"

end PhoneticSearch.Phonex
