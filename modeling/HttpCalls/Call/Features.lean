-- Features in JSON: how a client writes them down, and how they are read.
import HttpCalls.Call.Codec
import HttpCalls.Typed.Reading

namespace HttpCalls

/-- The names of the features of writing. -/
def WriteFeature.table : List (String × WriteFeature) :=
  [("INDENT_OUTPUT", .indentOutput), ("WRITE_NULL_MAP_VALUES", .writeNullMapValues)]

/-- The names of the features of reading. -/
def ReadFeature.table : List (String × ReadFeature) :=
  [("UNWRAP_SINGLE_VALUE_ARRAYS", .unwrapSingleValueArrays), ("FAIL_ON_EMPTY_BODY", .failOnEmptyBody)]

/-- The name of a feature of writing. -/
def WriteFeature.name : WriteFeature → String
  | .indentOutput => "INDENT_OUTPUT"
  | .writeNullMapValues => "WRITE_NULL_MAP_VALUES"

/-- The name of a feature of reading. -/
def ReadFeature.name : ReadFeature → String
  | .unwrapSingleValueArrays => "UNWRAP_SINGLE_VALUE_ARRAYS"
  | .failOnEmptyBody => "FAIL_ON_EMPTY_BODY"

namespace Features

/-- A list of features of writing. -/
def writing (v : Datum) : Typed (List WriteFeature) :=
  v.asList (Datum.asChoice .strict "SerializationFeature" WriteFeature.table)

/-- A list of features of reading. -/
def reading (v : Datum) : Typed (List ReadFeature) :=
  v.asList (Datum.asChoice .strict "DeserializationFeature" ReadFeature.table)

/-- The four lists under their names. -/
def table : List (Datum.Field Features) :=
  [{ name := "enabled_serialization", set := fun v f => return { f with enabledWriting := ← writing v } },
   { name := "enabled_deserialization", set := fun v f => return { f with enabledReading := ← reading v } },
   { name := "disabled_serialization", set := fun v f => return { f with disabledWriting := ← writing v } },
   { name := "disabled_deserialization", set := fun v f => return { f with disabledReading := ← reading v } }]

/-- Reads the features of a client. -/
def ofJson (v : Json) : Typed Features := v.datum.asRecord .strict "JsonFeatures" table {}

/-- The features of a client in JSON. -/
def toJson (f : Features) : Json :=
  .object
    [("enabled_serialization", .array (f.enabledWriting.map (.string ·.name))),
     ("enabled_deserialization", .array (f.enabledReading.map (.string ·.name))),
     ("disabled_serialization", .array (f.disabledWriting.map (.string ·.name))),
     ("disabled_deserialization", .array (f.disabledReading.map (.string ·.name)))]

end Features

end HttpCalls
