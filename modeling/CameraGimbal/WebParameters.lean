/-
This file models the parameter form of the web server: the table of its parameters, what the form
accepts for each, and `collect_replacement_parameter_updates`, which makes the updates of the
configuration file from a submitted form.
-/

import CameraGimbal.RuntimeConfig
import CameraGimbal.WebForm
import CameraGimbal.WebIni

namespace WebParameters

open CText Config WebIni Optics RuntimeConfig

/-! ### The table -/

/-- `enum parameter_kind`: the kinds that the table of parameters has. -/
inductive ParameterKind
  | enumeration | integer | text | password
  deriving DecidableEq

/-- `struct parameter`. -/
structure Parameter where
  formName : String
  sectionName : Text
  key : Text
  kind : ParameterKind
  minimum : Int
  maximum : Int
  options : List Text
  deriving DecidableEq

def enumParameter (formName sectionName key : String) (options : List String) : Parameter where
  formName := formName
  sectionName := bytes sectionName
  key := bytes key
  kind := .enumeration
  minimum := 0
  maximum := 0
  options := options.map bytes

def boundedParameter (formName sectionName key : String) (kind : ParameterKind)
    (minimum maximum : Int) : Parameter where
  formName := formName
  sectionName := bytes sectionName
  key := bytes key
  kind := kind
  minimum := minimum
  maximum := maximum
  options := []

def booleanOptions : List String := ["false", "true"]

def uartProtocolOptions (target : Target) : List String :=
  ["none"] ++ if target.haveExternalUart then ["siyi", "mavlink"] else []

def resolutionOptions (mask : Nat) : List String :=
  (if mask.testBit 0 then ["1280x720"] else []) ++
    (if mask.testBit 1 then ["1920x1080"] else []) ++
    (if mask.testBit 3 then ["2560x1440"] else []) ++
    (if mask.testBit 2 then ["3840x2160"] else [])

def codecOptions (target : Target) : List String :=
  ["h264"] ++ if target.streamCodecs.testBit 1 then ["h265"] else []

def paletteOptions : List String :=
  ["white_hot", "sepia", "ironbow", "rainbow", "night", "aurora", "red_hot", "jungle", "medical",
    "black_hot", "glory_hot"]

def shutterOptions : List String :=
  ["auto", "1/30", "1/50", "1/100", "1/250", "1/500", "1/750", "1/1000", "1/2000"]

def whiteBalanceOptions : List String :=
  ["auto", "daylight", "cloudy", "fluorescent", "incandescent"]

def replacementParameters (target : Target) : List Parameter :=
  [boundedParameter "timezone" "general" "timezone" .text 1 127,
    enumParameter "photo_scope" "capture" "photo_scope" ["thermal", "all"],
    enumParameter "orientation" "mount" "orientation" ["auto", "upright", "inverted"],
    enumParameter "uart_protocol" "uart" "protocol" (uartProtocolOptions target),
    boundedParameter "mavlink_system_id" "mavlink" "system_id" .integer 0 255,
    enumParameter "mavlink_camera_component_id" "mavlink" "camera_component_id"
      ["100", "101", "102", "103", "104", "105"],
    boundedParameter "mavlink_tcp_port" "mavlink" "tcp_port" .integer 0 65535,
    boundedParameter "mavlink_udp_port" "mavlink" "udp_port" .integer 0 65535,
    enumParameter "position_targeting" "mavlink" "position_targeting" booleanOptions,
    enumParameter "log_disarmed" "logging" "disarmed" booleanOptions,
    enumParameter "tracking_method" "mavlink" "tracking_method" ["angle", "rate"],
    enumParameter "thermal_palette" "thermal" "palette" paletteOptions,
    enumParameter "autorecord" "recording" "autorecord" ["false", "true", "while_armed"],
    enumParameter "recording_resolution" "recording" "resolution"
      (resolutionOptions target.recordingResolutions),
    enumParameter "main_resolution" "stream.main" "resolution"
      (resolutionOptions target.mainResolutions),
    enumParameter "main_codec" "stream.main" "codec" (codecOptions target),
    enumParameter "sub_resolution" "stream.sub" "resolution"
      (resolutionOptions target.subResolutions),
    enumParameter "sub_codec" "stream.sub" "codec" (codecOptions target),
    boundedParameter "brightness" "image" "brightness" .integer 0 100,
    boundedParameter "saturation" "image" "saturation" .integer 0 100,
    boundedParameter "contrast" "image" "contrast" .integer 0 100,
    boundedParameter "exposure_compensation" "image" "exposure_compensation" .integer (-10) 10,
    enumParameter "iso" "image" "iso" ["auto", "100", "200", "400", "800", "1600", "3200"],
    enumParameter "shutter" "image" "shutter" shutterOptions,
    enumParameter "metering" "image" "metering" ["average", "center", "spot"],
    enumParameter "white_balance" "image" "white_balance" whiteBalanceOptions,
    enumParameter "proxy_enabled" "support_proxy" "enabled" booleanOptions,
    boundedParameter "proxy_host" "support_proxy" "host" .text 0 127,
    boundedParameter "proxy_mavlink_port" "support_proxy" "mavlink_port" .integer 0 65535,
    enumParameter "proxy_signing" "support_proxy" "signing" booleanOptions,
    boundedParameter "proxy_signing_passphrase" "support_proxy" "signing_passphrase" .password
      0 127,
    boundedParameter "proxy_signing_link_id" "support_proxy" "signing_link_id" .integer 0 255,
    boundedParameter "proxy_video1_port" "support_proxy" "video1_port" .integer 0 65535,
    boundedParameter "proxy_video1_name" "support_proxy" "video1_name" .text 0 63,
    boundedParameter "proxy_video2_port" "support_proxy" "video2_port" .integer 0 65535,
    boundedParameter "proxy_video2_name" "support_proxy" "video2_name" .text 0 63,
    boundedParameter "proxy_publish_password" "support_proxy" "publish_password" .password 0 127,
    boundedParameter "proxy_network_interface" "support_proxy" "network_interface" .text 1 15,
    boundedParameter "proxy_network_address" "support_proxy" "network_address" .text 0 31,
    boundedParameter "proxy_network_gateway" "support_proxy" "network_gateway" .text 0 15]

def parameterShown (target : Target) (parameter : Parameter) : Bool :=
  !(!haveImageControls target && parameter.sectionName == bytes "image") &&
    !(!target.haveExternalUart && parameter.sectionName == bytes "uart") &&
    !(!haveThermal target && (parameter.sectionName == bytes "thermal" ||
      parameter.key == bytes "photo_scope"))

/-! ### One value -/

/-- `parse_long_strict`. When nothing is converted the text is not at its end. -/
def parseLongStrict (longBits : Nat) (text : Text) (minimum maximum : Int) : Option Int :=
  match strtol longBits text with
  | none => none
  | some number =>
    if number.inRange = false ∨ text = [] ∨ number.rest ≠ [] ∨ number.value < minimum ∨
        maximum < number.value then none
    else some number.value

/-- The address, a slash and the prefix length of a `network_address`. -/
def validAddressText (longBits : Nat) (text : Text) : Bool :=
  if 32 ≤ text.length then false
  else
    match splitAt 47 text with
    | none => false
    | some (copy, slash) => (parseLongStrict longBits slash 1 32).isSome && inetPton copy

def validTextParameter (longBits : Nat) (parameter : Parameter) (text : Text) : Bool :=
  if (text.length : Int) < parameter.minimum ∨ parameter.maximum < text.length then false
  else if parameter.sectionName = bytes "support_proxy" then
    if text.any fun byte => byte < 32 || 126 < byte || byte == 34 ||
        ((parameter.key == bytes "host" || parameter.key == bytes "network_interface") &&
          !isAlphanumeric byte && byte != 46 && byte != 45 && byte != 95) then false
    else if text ≠ [] ∧ parameter.key = bytes "network_gateway" then inetPton text
    else if text ≠ [] ∧ parameter.key = bytes "network_address" then
      validAddressText longBits text
    else true
  else text.all fun byte => !(isControl byte || isSpace byte)

/-- What `collect_described_parameters` makes of a value, by the kind of its parameter. -/
def normalized (longBits : Nat) (parameter : Parameter) (value : Text) : Option Text :=
  match parameter.kind with
  | .enumeration => if value ∈ parameter.options then some value else none
  | .integer =>
    (parseLongStrict longBits value parameter.minimum parameter.maximum).map printInt
  | .text | .password =>
    if validTextParameter longBits parameter value then some value else none

/-! ### The form -/

/-- `sizeof(updates[0].value)`. -/
def valueSize : Nat := 160

/-- The length of the `updates` array of a `POST /parameters`. -/
def capacity : Nat := 80

/-- Why a form is refused: the parameter is named by its field of the form. -/
inductive FormError
  | invalidValue (formName : String)
  | tooManyParameters
  deriving DecidableEq

def appendUpdate (updates : List Update) (parameter : Parameter) (value : Text) :
    Except FormError (List Update) :=
  if capacity ≤ updates.length ∨ valueSize ≤ value.length then .error .tooManyParameters
  else .ok (updates ++ [⟨parameter.sectionName, parameter.key, value, false⟩])

/-- The value of a parameter in a form, as it goes to the file. -/
def submittedValue (target : Target) (form : Text) (parameter : Parameter) : Option Text :=
  match WebForm.formValue form parameter.formName with
  | none => none
  | some value =>
    if valueSize ≤ value.length then none else normalized target.longBits parameter value

/-- `collect_described_parameters`, after the updates so far. -/
def collectDescribedParameters (target : Target) (form : Text) :
    List Update → List Parameter → Except FormError (List Update)
  | updates, [] => .ok updates
  | updates, parameter :: rest =>
    if parameterShown target parameter = false then
      collectDescribedParameters target form updates rest
    else
      match submittedValue target form parameter with
      | none => .error (.invalidValue parameter.formName)
      | some value =>
        match appendUpdate updates parameter value with
        | .error error => .error error
        | .ok updates => collectDescribedParameters target form updates rest

def supportValue (updates : List Update) (key initial : String) : Text :=
  updates.foldl (fun value update =>
    if update.named (bytes "support_proxy") (bytes key) then update.value else value)
    (bytes initial)

/-- The field of the form that makes the SupportProxy settings invalid together. -/
def invalidSupport (updates : List Update) : Option String :=
  let signing := supportValue updates "signing" "false"
  let video1Port := supportValue updates "video1_port" "0"
  let video2Port := supportValue updates "video2_port" "0"
  if supportValue updates "enabled" "false" = bytes "true" then
    if supportValue updates "host" "" = [] then some "proxy_host"
    else if signing = bytes "true" ∧ supportValue updates "signing_passphrase" "" = [] then
      some "proxy_signing_passphrase"
    else if video1Port ≠ bytes "0" ∧ supportValue updates "video1_name" "" = [] then
      some "proxy_video1_name"
    else if video2Port ≠ bytes "0" ∧ supportValue updates "video2_name" "" = [] then
      some "proxy_video2_name"
    else if video1Port ≠ bytes "0" ∧ video1Port = video2Port then some "proxy_video2_port"
    else none
  else none

def collectReplacementParameterUpdates (target : Target) (form : Text) :
    Except FormError (List Update) :=
  match collectDescribedParameters target form [] (replacementParameters target) with
  | .error error => .error error
  | .ok updates =>
    match invalidSupport updates with
    | some formName => .error (.invalidValue formName)
    | none => .ok updates

end WebParameters
