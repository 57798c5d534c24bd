import OpticsSoftfail.Json

namespace OpticsSoftfail

/-!
# Raw samples and their validation

`validate.cpp` reads one document into a `Sample`, field by field, and stops at
the first field that is missing or wrong.  The out parameter keeps whatever was
assigned before that point.  The JSON parser is a library the ingest links to
and stays a parameter.
-/

/-- `Sample`, one validated raw telemetry sample. -/
structure Sample (Value : Type) where
  tsUnixMs : Int
  linkId : String
  channelId : String
  osnrDb : Value
  ber : Value
  laserBiasMa : Value
  edfaPumpMa : Value
  rxPowerDbm : Value
  deriving Repr, DecidableEq

/-- What the ingest takes from its libraries and its platform. -/
structure IngestLibrary (Value : Type) where
  /-- `nlohmann::json::parse` without exceptions; `none` is discarded. -/
  parse : List UInt8 → Option (Json Value)
  log10 : Value → Value
  sqrt : Value → Value
  /-- What a cast to `int64_t` yields for a value that does not fit. -/
  castOutOfRange : Value → Int

/-- `kEdfaPumpDefault`. -/
def kEdfaPumpDefault {Value : Type} [Zero Value] : Value :=
  0

/-- `kRxPowerDefault`. -/
def kRxPowerDefault {Value : Type} [Ring Value] : Value :=
  -99

namespace Sample

variable {Value : Type}

/-- A default-constructed `Sample`. -/
def initial [Ring Value] : Sample Value where
  tsUnixMs := 0
  linkId := ""
  channelId := ""
  osnrDb := 0
  ber := 0
  laserBiasMa := 0
  edfaPumpMa := kEdfaPumpDefault
  rxPowerDbm := kRxPowerDefault

end Sample

variable {Value : Type}

/-- `read_number`: the number, or the error text. -/
def readNumber
    (doc : Json Value)
    (key : String) : Except String Value :=
  match doc.find? key with
  | none => .error ("missing field: " ++ key)
  | some .null => .error ("missing field: " ++ key)
  | some (.number (.finite value)) => .ok value
  | some (.number .nonFinite) => .error ("non-finite: " ++ key)
  | some _ => .error ("not a number: " ++ key)

/-- `read_optional_number`. -/
def readOptionalNumber
    (doc : Json Value)
    (key : String)
    (fallback : Value) : Value :=
  match doc.find? key with
  | some (.number (.finite value)) => value
  | _ => fallback

/-- `read_string`: the assigned text and whether it is accepted. -/
def readString
    (doc : Json Value)
    (key : String)
    (out : String) : String × Except String Unit :=
  match doc.find? key with
  | some (.string value) =>
      (value,
        if value.isEmpty then .error ("empty field: " ++ key) else .ok ())
  | _ => (out, .error ("missing field: " ++ key))

/-- The channel of a document, `"C1"` unless it names one. -/
def readChannelId (doc : Json Value) : String :=
  match doc.find? "channel_id" with
  | some (.string value) => if value.isEmpty then "C1" else value
  | _ => "C1"

/-- `static_cast<std::int64_t>`. -/
def castInt64
    [Ring Value] [LinearOrder Value] [FloorRing Value]
    (library : IngestLibrary Value)
    (value : Value) : Int :=
  let truncated := truncateToInt value
  if -2 ^ 63 ≤ truncated ∧ truncated < 2 ^ 63 then truncated
  else library.castOutOfRange value

/-- The `ts_unix_ms` block: the stored number, or the error text. -/
def readTimestamp
    [Ring Value] [LinearOrder Value] [FloorRing Value]
    (library : IngestLibrary Value)
    (doc : Json Value) : Except String Int :=
  match doc.find? "ts_unix_ms" with
  | some (.number (.finite value)) =>
      if value < 0 then .error "invalid ts_unix_ms"
      else .ok (castInt64 library value)
  | some (.number .nonFinite) => .error "invalid ts_unix_ms"
  | _ => .error "missing field: ts_unix_ms"

/-- `validate_sample`: the out parameter afterwards, and the error if any. -/
def validateSample
    [Ring Value] [LinearOrder Value] [FloorRing Value]
    (library : IngestLibrary Value)
    (doc : Json Value)
    (out : Sample Value) : Sample Value × Except String Unit :=
  if doc.isObject = false then
    (out, .error "not a JSON object")
  else
    match readTimestamp library doc with
    | .error error => (out, .error error)
    | .ok tsUnixMs =>
        let out := { out with tsUnixMs := tsUnixMs }
        match readString doc "link_id" out.linkId with
        | (linkId, .error error) =>
            ({ out with linkId := linkId }, .error error)
        | (linkId, .ok _) =>
            let out := { out with
              linkId := linkId
              channelId := readChannelId doc }
            match readNumber doc "osnr_db" with
            | .error error => (out, .error error)
            | .ok osnrDb =>
                let out := { out with osnrDb := osnrDb }
                match readNumber doc "ber" with
                | .error error => (out, .error error)
                | .ok ber =>
                    let out := { out with ber := ber }
                    if ber ≤ 0 then (out, .error "ber must be > 0")
                    else
                      match readNumber doc "laser_bias_ma" with
                      | .error error => (out, .error error)
                      | .ok laserBiasMa =>
                          ({ out with
                              laserBiasMa := laserBiasMa
                              edfaPumpMa :=
                                readOptionalNumber doc "edfa_pump_ma"
                                  kEdfaPumpDefault
                              rxPowerDbm :=
                                readOptionalNumber doc "rx_power_dbm"
                                  kRxPowerDefault },
                            .ok ())

/-- `parse_sample`. -/
def parseSample
    [Ring Value] [LinearOrder Value] [FloorRing Value]
    (library : IngestLibrary Value)
    (line : List UInt8)
    (out : Sample Value) : Sample Value × Except String Unit :=
  match library.parse line with
  | none => (out, .error "malformed JSON")
  | some doc => validateSample library doc out

/-- The sample of a line the handler accepts. -/
def acceptedSample?
    [Ring Value] [LinearOrder Value] [FloorRing Value]
    (library : IngestLibrary Value)
    (line : List UInt8) : Option (Sample Value) :=
  match parseSample library line Sample.initial with
  | (sample, .ok _) => some sample
  | (_, .error _) => none

end OpticsSoftfail
