/-
This file models the configuration file: the members of `struct ca_config`, the table of its
fields, what each field accepts, and `ca_config_load`, which reads an INI file line by line on
top of a configuration.
-/

import CameraGimbal.CText

namespace Config

open CText

/-! ### Targets -/

/-- The products the firmware is built for. -/
inductive Target
  | a8 | zr10 | mt11 | z1mini
  deriving DecidableEq

/-- Bits of a `long`: the MT11 is built for aarch64, the others for ARMv7. -/
def Target.longBits : Target → Nat
  | .mt11 => 64
  | _ => 32

def Target.haveExternalUart : Target → Bool
  | .z1mini => false
  | _ => true

/-- `APCAM_MAIN_RESOLUTIONS`. -/
def Target.mainResolutions : Target → Nat
  | .a8 | .mt11 => 7
  | .zr10 => 11
  | .z1mini => 2

/-- `APCAM_SUB_RESOLUTIONS`. -/
def Target.subResolutions : Target → Nat
  | .a8 | .mt11 => 7
  | .zr10 => 11
  | .z1mini => 2

/-- `APCAM_RECORDING_RESOLUTIONS`. -/
def Target.recordingResolutions : Target → Nat
  | .a8 | .mt11 => 7
  | .zr10 => 11
  | .z1mini => 6

/-- `APCAM_STREAM_CODECS`. -/
def Target.streamCodecs : Target → Nat
  | .z1mini => 1
  | _ => 3

def Target.defaultMainResolution : Target → Int
  | .zr10 => 0
  | _ => 1

def Target.defaultSubResolution : Target → Int
  | .z1mini => 1
  | _ => 0

def Target.defaultRecordingResolution : Target → Int
  | .zr10 => 0
  | _ => 1

def Target.defaultPositionTargeting : Target → Bool
  | .z1mini => false
  | _ => true

def Target.defaultOrientation : Target → Int
  | .z1mini => 1
  | _ => 0

def Target.defaultTimezone : Target → Text
  | .z1mini => bytes "UTC0"
  | _ => bytes "GMT-10"

/-! ### Members -/

/-- The members of `struct ca_config`; those of its `support` member carry that prefix. -/
inductive Member
  | logDisarmed | timezone | photoScope | orientation | uartProtocol | thermalPalette
  | autorecord | recordingResolution | mainResolution | mainCodec | subResolution | subCodec
  | brightness | saturation | contrast | exposureCompensation | iso | shutter | metering
  | whiteBalance | positionTargeting | trackingMethod | mavlinkTcpPort | mavlinkUdpPort
  | mavlinkSystemId | mavlinkCameraComponentId
  | supportEnabled | supportHost | supportMavlinkPort | supportSigning
  | supportSigningPassphrase | supportSigningLinkId | supportVideo1Port | supportVideo2Port
  | supportVideo1Name | supportVideo2Name | supportPublishPassword | supportNetworkInterface
  | supportNetworkAddress | supportNetworkGateway
  deriving DecidableEq

/-- `enum config_value_kind`. -/
inductive Kind
  | timezone | string | enumeration | integer | boolean | unsigned
  deriving DecidableEq

/-- What a member of a kind holds. -/
def Kind.Value : Kind → Type
  | .timezone | .string => Text
  | .enumeration | .integer => Int
  | .boolean => Bool
  | .unsigned => Nat

def Member.kind : Member → Kind
  | .logDisarmed | .positionTargeting | .supportEnabled | .supportSigning => .boolean
  | .timezone => .timezone
  | .photoScope | .orientation | .uartProtocol | .thermalPalette | .autorecord
  | .recordingResolution | .mainResolution | .mainCodec | .subResolution | .subCodec
  | .iso | .shutter | .metering | .whiteBalance | .trackingMethod => .enumeration
  | .brightness | .saturation | .contrast | .exposureCompensation => .integer
  | .mavlinkTcpPort | .mavlinkUdpPort | .mavlinkSystemId | .mavlinkCameraComponentId
  | .supportMavlinkPort | .supportSigningLinkId | .supportVideo1Port
  | .supportVideo2Port => .unsigned
  | .supportHost | .supportSigningPassphrase | .supportVideo1Name | .supportVideo2Name
  | .supportPublishPassword | .supportNetworkInterface | .supportNetworkAddress
  | .supportNetworkGateway => .string

/-- `sizeof` of a member. -/
def Member.size : Member → Nat
  | .timezone | .supportHost | .supportSigningPassphrase | .supportPublishPassword => 128
  | .supportVideo1Name | .supportVideo2Name => 64
  | .supportNetworkAddress => 32
  | .supportNetworkInterface | .supportNetworkGateway => 16
  | .logDisarmed | .positionTargeting | .supportEnabled | .supportSigning => 1
  | _ => 4

/-- A configuration gives every member a value of its kind. -/
abbrev Configuration := (member : Member) → member.kind.Value

/-- `ca_config_defaults`. -/
def defaults (target : Target) : Configuration
  | .timezone => target.defaultTimezone
  | .photoScope => (1 : Int)
  | .orientation => target.defaultOrientation
  | .mainResolution => target.defaultMainResolution
  | .subResolution => target.defaultSubResolution
  | .recordingResolution => target.defaultRecordingResolution
  | .brightness | .saturation | .contrast => (50 : Int)
  | .positionTargeting => target.defaultPositionTargeting
  | .mavlinkSystemId => (0 : Nat)
  | .mavlinkCameraComponentId => (100 : Nat)
  | .mavlinkTcpPort | .mavlinkUdpPort => (14550 : Nat)
  | .supportMavlinkPort => (10001 : Nat)
  | .supportSigningLinkId => (1 : Nat)
  | .supportVideo1Port | .supportVideo2Port => (0 : Nat)
  | .supportVideo1Name => bytes "video1"
  | .supportVideo2Name => bytes "video2"
  | .supportNetworkInterface => bytes "eth0"
  | .uartProtocol | .thermalPalette | .autorecord | .mainCodec | .subCodec
  | .exposureCompensation | .iso | .shutter | .metering | .whiteBalance
  | .trackingMethod => (0 : Int)
  | .logDisarmed | .supportEnabled | .supportSigning => false
  | .supportHost | .supportSigningPassphrase | .supportPublishPassword
  | .supportNetworkAddress | .supportNetworkGateway => ([] : Text)

def supportValid (config : Configuration) : Bool :=
  let enabled : Bool := config .supportEnabled
  let host : Text := config .supportHost
  let signing : Bool := config .supportSigning
  let passphrase : Text := config .supportSigningPassphrase
  let video1Port : Nat := config .supportVideo1Port
  let video2Port : Nat := config .supportVideo2Port
  let video1Name : Text := config .supportVideo1Name
  let video2Name : Text := config .supportVideo2Name
  !enabled ||
    (host != [] && (!signing || passphrase != []) &&
      (video1Port == 0 || video1Name != []) &&
      (video2Port == 0 || video2Name != []) &&
      (video1Port == 0 || video1Port != video2Port))

/-! ### The table of fields -/

/-- `struct ca_config_option`. -/
structure Choice where
  name : Text
  value : Int
  deriving DecidableEq

/-- `struct config_field`. The member stands for the offset, and gives the kind and the size. -/
structure Field where
  sectionName : Text
  key : Text
  member : Member
  options : List Choice
  minimum : Int
  maximum : Int
  paramName : Option Text
  deriving DecidableEq

def choice (name : String) (value : Int) : Choice := { name := bytes name, value }

def photoScopeOptions : List Choice := [choice "thermal" 0, choice "all" 1]

def autorecordOptions : List Choice :=
  [choice "false" 0, choice "true" 1, choice "while_armed" 2]

def orientationOptions : List Choice :=
  [choice "auto" 0, choice "upright" 1, choice "inverted" 2]

def uartProtocolOptions (target : Target) : List Choice :=
  [choice "none" 0] ++ (if target.haveExternalUart then [choice "siyi" 1] else []) ++
    [choice "mavlink" 2]

/-- The resolutions of a mask, in the order of the tables. -/
def resolutionOptions (mask : Nat) : List Choice :=
  (if mask.testBit 0 then [choice "1280x720" 0] else []) ++
    (if mask.testBit 1 then [choice "1920x1080" 1] else []) ++
    (if mask.testBit 3 then [choice "2560x1440" 3] else []) ++
    (if mask.testBit 2 then [choice "3840x2160" 2] else [])

def codecOptions (target : Target) : List Choice :=
  [choice "h264" 0] ++ (if target.streamCodecs.testBit 1 then [choice "h265" 1] else [])

def paletteOptions : List Choice :=
  [choice "white_hot" 0, choice "sepia" 2, choice "ironbow" 3, choice "rainbow" 4,
    choice "night" 5, choice "aurora" 6, choice "red_hot" 7, choice "jungle" 8,
    choice "medical" 9, choice "black_hot" 10, choice "glory_hot" 11]

def isoOptions : List Choice :=
  [choice "auto" 0, choice "100" 1, choice "200" 2, choice "400" 3, choice "800" 4,
    choice "1600" 5, choice "3200" 6]

def shutterOptions : List Choice :=
  [choice "auto" 0, choice "1/30" 1, choice "1/50" 2, choice "1/100" 3, choice "1/250" 4,
    choice "1/500" 5, choice "1/750" 6, choice "1/1000" 7, choice "1/2000" 8]

def meteringOptions : List Choice := [choice "average" 0, choice "center" 1, choice "spot" 2]

def whiteBalanceOptions : List Choice :=
  [choice "auto" 0, choice "daylight" 1, choice "cloudy" 2, choice "fluorescent" 3,
    choice "incandescent" 4]

def trackingOptions : List Choice := [choice "angle" 0, choice "rate" 1]

/-- A row of the table that is also a parameter. -/
def row (sectionName key : String) (member : Member) (options : List Choice)
    (minimum maximum : Int) (paramName : String) : Field where
  sectionName := bytes sectionName
  key := bytes key
  member := member
  options := options
  minimum := minimum
  maximum := maximum
  paramName := some (bytes paramName)

/-- A row of the table that is not a parameter. -/
def textRow (sectionName key : String) (member : Member) (minimum maximum : Int) : Field where
  sectionName := bytes sectionName
  key := bytes key
  member := member
  options := []
  minimum := minimum
  maximum := maximum
  paramName := none

def configFields (target : Target) : List Field :=
  [row "logging" "disarmed" .logDisarmed [] 0 0 "LOG_DISARMED",
    textRow "general" "timezone" .timezone 0 0,
    row "capture" "photo_scope" .photoScope photoScopeOptions 0 0 "PHOTO_SCOPE",
    row "mount" "orientation" .orientation orientationOptions 0 0 "MOUNT_ORIENT",
    row "uart" "protocol" .uartProtocol (uartProtocolOptions target) 0 0 "UART_PROTOCOL",
    row "thermal" "palette" .thermalPalette paletteOptions 0 0 "THERMAL_PALETTE",
    row "recording" "autorecord" .autorecord autorecordOptions 0 0 "REC_AUTOSTART",
    row "recording" "resolution" .recordingResolution
      (resolutionOptions target.recordingResolutions) 0 0 "REC_RESOLUTION",
    row "stream.main" "resolution" .mainResolution (resolutionOptions target.mainResolutions) 0 0
      "VIDEO_MAIN_RES",
    row "stream.main" "codec" .mainCodec (codecOptions target) 0 0 "VIDEO_MAIN_CODEC",
    row "stream.sub" "resolution" .subResolution (resolutionOptions target.subResolutions) 0 0
      "VIDEO_SUB_RES",
    row "stream.sub" "codec" .subCodec (codecOptions target) 0 0 "VIDEO_SUB_CODEC",
    row "image" "brightness" .brightness [] 0 100 "IMG_BRIGHTNESS",
    row "image" "saturation" .saturation [] 0 100 "IMG_SATURATION",
    row "image" "contrast" .contrast [] 0 100 "IMG_CONTRAST",
    row "image" "exposure_compensation" .exposureCompensation [] (-10) 10 "IMG_EXPOSURE",
    row "image" "iso" .iso isoOptions 0 0 "IMG_ISO",
    row "image" "shutter" .shutter shutterOptions 0 0 "IMG_SHUTTER",
    row "image" "metering" .metering meteringOptions 0 0 "IMG_METERING",
    row "image" "white_balance" .whiteBalance whiteBalanceOptions 0 0 "IMG_WHITE_BAL",
    row "mavlink" "position_targeting" .positionTargeting [] 0 0 "MAV_POS_TARGET",
    row "mavlink" "tracking_method" .trackingMethod trackingOptions 0 0 "TRACK_METHOD",
    row "mavlink" "tcp_port" .mavlinkTcpPort [] 0 65535 "MAV_TCP_PORT",
    row "mavlink" "udp_port" .mavlinkUdpPort [] 0 65535 "MAV_UDP_PORT",
    row "mavlink" "system_id" .mavlinkSystemId [] 0 255 "MAV_SYSID",
    row "mavlink" "camera_component_id" .mavlinkCameraComponentId [] 100 105 "MAV_CAM_COMP_ID",
    row "support_proxy" "enabled" .supportEnabled [] 0 1 "PROXY_ENABLE",
    textRow "support_proxy" "host" .supportHost 0 127,
    row "support_proxy" "mavlink_port" .supportMavlinkPort [] 0 65535 "PROXY_MAV_PORT",
    row "support_proxy" "signing" .supportSigning [] 0 1 "PROXY_SIGN",
    textRow "support_proxy" "signing_passphrase" .supportSigningPassphrase 0 127,
    row "support_proxy" "signing_link_id" .supportSigningLinkId [] 0 255 "PROXY_SIGN_ID",
    row "support_proxy" "video1_port" .supportVideo1Port [] 0 65535 "PROXY_VID1_PORT",
    row "support_proxy" "video2_port" .supportVideo2Port [] 0 65535 "PROXY_VID2_PORT",
    textRow "support_proxy" "video1_name" .supportVideo1Name 0 63,
    textRow "support_proxy" "video2_name" .supportVideo2Name 0 63,
    textRow "support_proxy" "publish_password" .supportPublishPassword 0 127,
    textRow "support_proxy" "network_interface" .supportNetworkInterface 1 15,
    textRow "support_proxy" "network_address" .supportNetworkAddress 0 31,
    textRow "support_proxy" "network_gateway" .supportNetworkGateway 0 15]

/-! ### Reading one value -/

def validTimezone (value : Text) : Bool :=
  value != [] && value.length < 128 && value.all fun byte => !isControl byte && !isSpace byte

/-- The check of a `network_address`: an address, a slash and a prefix length. -/
def validNetworkAddress (longBits : Nat) (value : Text) : Bool :=
  match splitAt 47 value with
  | none => false
  | some (address, slash) =>
    match strtol longBits slash with
    | none => false
    | some length => length.rest == [] && decide (1 ≤ length.value) &&
        decide (length.value ≤ 32) && inetPton address

/-- The `CONFIG_STRING` branch of `set_field`. -/
def parseString (longBits : Nat) (field : Field) (value : Text) : Option Text :=
  if field.member.size ≤ value.length ∨ (value.length : Int) < field.minimum then none
  else if value.any (fun byte => byte < 32 || 126 < byte || byte == 34) then none
  else if (field.key == bytes "host" || field.key == bytes "network_interface") &&
      value.any (fun byte => !(isAlphanumeric byte || byte == 46 || byte == 45 || byte == 95)) then
    none
  else if value != [] && field.key == bytes "network_gateway" && !inetPton value then none
  else if value != [] && field.key == bytes "network_address" &&
      !validNetworkAddress longBits value then none
  else some value

/-- A number that `strtol` or `strtoul` read whole, within the bounds of its field. -/
def boundedNumber (minimum maximum : Int) (converted : Option Converted) : Option Int :=
  match converted with
  | none => none
  | some number =>
    if number.inRange ∧ number.rest = [] ∧ minimum ≤ number.value ∧ number.value ≤ maximum then
      some number.value
    else none

/-- What `set_field` stores in a member of the field's kind. -/
def parseValue (target : Target) (field : Field) : (kind : Kind) → Text → Option kind.Value
  | .string, value => parseString target.longBits field value
  | .timezone, value =>
    if validTimezone value ∧ value.length < field.member.size then some value else none
  | .enumeration, value =>
    (field.options.find? fun option => option.name == value).map Choice.value
  | .integer, value => boundedNumber field.minimum field.maximum (strtol target.longBits value)
  | .boolean, value =>
    if value = bytes "true" then some true
    else if value = bytes "false" then some false
    else none
  | .unsigned, value =>
    -- `(unsigned long)field->minimum` and `maximum`: neither is negative here
    (boundedNumber field.minimum field.maximum (strtoul target.longBits value)).map Int.toNat

def setField (target : Target) (config : Configuration) (field : Field) (value : Text) :
    Option Configuration :=
  (parseValue target field field.member.kind value).map (Function.update config field.member)

/-! ### Loading a file -/

/-- Why a line is refused. -/
inductive Fault
  | tooLong
  | invalidSection
  | invalidSectionName
  | notKeyValue
  | invalidOrDuplicate (key : Text)
  deriving DecidableEq

/-- Why `ca_config_load` fails. -/
inductive LoadError
  | missing
  | line (number : Nat) (fault : Fault)
  | support
  deriving DecidableEq

/-- What a line says. -/
inductive Statement
  | blank
  | header (name : Text)
  | setting (key value : Text)
  deriving DecidableEq

/-- The local variables of `ca_config_load` between two lines. -/
structure Loading where
  sectionName : Text
  seen : Member → Bool
  parsed : Configuration

/-- The value of a setting, without the quotes around it. -/
def unquote (sectionName value : Text) : Text :=
  if 2 ≤ value.length ∧ value.head? = some 34 ∧ value.getLast? = some 34 then
    let inner := value.dropLast.tail
    if sectionName = bytes "support_proxy" then inner else trim inner
  else value

/-- The checks and cuts of a trimmed line. -/
def parseText (sectionName : Text) : Text → Except Fault Statement
  | [] => .ok .blank
  | first :: rest =>
    if first = 35 ∨ first = 59 then .ok .blank
    else if first = 91 then
      match splitAt 93 rest with
      | none => .error .invalidSection
      | some (inside, after) =>
        if trim after ≠ [] then .error .invalidSection
        else if trim inside = [] ∨ 64 ≤ (trim inside).length then .error .invalidSectionName
        else .ok (.header (trim inside))
    else
      match splitAt 61 (first :: rest) with
      | none => .error .notKeyValue
      | some (before, after) => .ok (.setting (trim before) (unquote sectionName (trim after)))

/-- What one `fgets` gives is a line, unless it did not fit the buffer. -/
def parseLine (sectionName : Text) (chunk : Chunk) : Except Fault Statement :=
  let line := cString chunk.text
  if line ≠ [] ∧ line.getLast? ≠ some newline ∧ chunk.atEnd = false then .error .tooLong
  else parseText sectionName (trim line)

/-- The field that a key of a section names. -/
def findField (target : Target) (sectionName key : Text) : Option Field :=
  (configFields target).find? fun field => sectionName == field.sectionName && key == field.key

/-- The loop over `config_fields`; a key that is not in the table is ignored. -/
def loadSetting (target : Target) (state : Loading) (key value : Text) : Except Fault Loading :=
  match findField target state.sectionName key with
  | none => .ok state
  | some field =>
    if state.seen field.member then .error (.invalidOrDuplicate field.key)
    else
      match setField target state.parsed field value with
      | none => .error (.invalidOrDuplicate field.key)
      | some parsed =>
        .ok { state with parsed, seen := Function.update state.seen field.member true }

/-- What a statement does. -/
def obey (target : Target) (state : Loading) : Statement → Except Fault Loading
  | .blank => .ok state
  | .header name => .ok { state with sectionName := name }
  | .setting key value => loadSetting target state key value

def loadLine (target : Target) (state : Loading) (chunk : Chunk) : Except Fault Loading :=
  (parseLine state.sectionName chunk).bind (obey target state)

/-- The loop of `ca_config_load` over the lines, the first of which has the number after
`number`. -/
def loadLines (target : Target) : Nat → Loading → List Chunk → Except LoadError Loading
  | _, state, [] => .ok state
  | number, state, chunk :: rest =>
    match loadLine target state chunk with
    | .error fault => .error (.line (number + 1) fault)
    | .ok next => loadLines target (number + 1) next rest

/-- `CONFIG_LINE_MAX`. -/
def lineMax : Nat := 512

/-- The state before the first line. -/
def Loading.start (config : Configuration) : Loading :=
  { sectionName := [], seen := fun _ => false, parsed := config }

/-- `ca_config_load`; the file is `none` when it does not exist. -/
def load (target : Target) (config : Configuration) :
    Option Text → Except LoadError Configuration
  | none => .error .missing
  | some file =>
    match loadLines target 0 (Loading.start config) (fgets lineMax file) with
    | .error error => .error error
    | .ok state => if supportValid state.parsed then .ok state.parsed else .error .support

/-- The text that goes into the caller's buffer; a missing file leaves it alone. -/
def LoadError.text : LoadError → Option Text
  | .missing => none
  | .line number fault =>
    some (bytes "line " ++ printNat number ++ match fault with
      | .tooLong => bytes " is too long"
      | .invalidSection => bytes " has an invalid section"
      | .invalidSectionName => bytes " has an invalid section name"
      | .notKeyValue => bytes " is not key=value"
      | .invalidOrDuplicate key => bytes " has an invalid or duplicate " ++ key)
  | .support =>
    some (bytes "SupportProxy needs a host, distinct enabled video ports, stream names and a " ++
      bytes "passphrase when signing is enabled")

end Config
