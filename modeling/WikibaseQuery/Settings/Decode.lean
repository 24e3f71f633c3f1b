import WikibaseQuery.Json.Record
import WikibaseQuery.Settings.Basic

/-!
# Settings from JSON

Every field of the settings may be missing, and keeps its default then; so may every namespace.
-/

namespace WikibaseQuery

/-- How the namespaces are written. -/
def Namespaces.record : Record Namespaces where
  name := "Namespaces"
  required := 0
  blank := {}
  fields :=
    [ .of "wd" Document.decodeText fun wd n => { n with wd },
      .of "wdt" Document.decodeText fun wdt n => { n with wdt },
      .of "p" Document.decodeText fun p n => { n with p },
      .of "ps" Document.decodeText fun ps n => { n with ps },
      .of "psv" Document.decodeText fun psv n => { n with psv },
      .of "psn" Document.decodeText fun psn n => { n with psn },
      .of "wikibase" Document.decodeText fun wikibase n => { n with wikibase },
      .of "prov" Document.decodeText fun prov n => { n with prov },
      .of "bd" Document.decodeText fun bd n => { n with bd },
      .of "hint" Document.decodeText fun hint n => { n with hint },
      .of "xsd" Document.decodeText fun xsd n => { n with xsd } ]

/-- A subclass table; of two entries for one property the last one counts. -/
def SubclassTable.decode : Decoder SubclassTable := fun d =>
  ofEntries <$> d.decodeTable Document.decodeText

/-- How the settings are written. -/
def Settings.record : Record Settings where
  name := "CompilerConfig"
  required := 0
  blank := {}
  fields :=
    [ .of "siConversionProperty" Document.decodeText?
        fun conversionProperty s => { s with conversionProperty },
      .of "subclassPropertyMap" SubclassTable.decode
        fun subclassProperties s => { s with subclassProperties },
      .of "namespaces" Namespaces.record.decode fun namespaces s => { s with namespaces },
      .of "labelLanguage" Document.decodeText fun labelLanguage s => { s with labelLanguage } ]

/-- Decode the text of settings. -/
def Settings.decode (text : String) : Except DecodeError Settings :=
  decodeFrom Settings.record.decode text

end WikibaseQuery
