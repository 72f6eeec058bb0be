import CameraGimbal.SiyiFraming
import CameraGimbal.SiyiRouting
import CameraGimbal.GimbalMounting
import CameraGimbal.GimbalRate
import CameraGimbal.GimbalSuppression
import CameraGimbal.Orientation
import CameraGimbal.PipelineOpening
import CameraGimbal.SupportPackets
import CameraGimbal.SupportQueue
import CameraGimbal.LiveVideo
import CameraGimbal.Z1Damage
import CameraGimbal.MavlinkLists
import CameraGimbal.ConfigReload
import CameraGimbal.Mt11Zoom
import CameraGimbal.Mt11Focus
import CameraGimbal.ThermalControls
import CameraGimbal.RecorderState
import CameraGimbal.BinlogRuns
import CameraGimbal.TrackingStop
import CameraGimbal.CameraFtpDownload
import CameraGimbal.ImageSequence
import CameraGimbal.AuthorizedKeysRuns
import CameraGimbal.WebSessionsRuns
import CameraGimbal.WebEscaping
import CameraGimbal.ConfigSetters
import CameraGimbal.ConfigSaves
import CameraGimbal.MediaDeletion
import CameraGimbal.StillPhotosRuns
import CameraGimbal.PrivatePeers
import CameraGimbal.Z1DeadMan
import CameraGimbal.Mp4Samples
import CameraGimbal.CommandConversions
import CameraGimbal.CameraRestart
import CameraGimbal.HeadingRuns
import CameraGimbal.XfrobotFraming
import CameraGimbal.MessageQueue
import CameraGimbal.HttpRanges
import CameraGimbal.UrlEncoding
import CameraGimbal.Zr10FirmwareChecks
import CameraGimbal.VideoTelemetryInverse
import CameraGimbal.UvcFrames
import CameraGimbal.ThermalConversion
import CameraGimbal.ThermalSocketRuns
import CameraGimbal.AutofocusSearch
import CameraGimbal.E5739Zoom
import CameraGimbal.Imx586Gains
import CameraGimbal.Imx586Registers
import CameraGimbal.ExifCoordinates
import CameraGimbal.ExifMeaning
import CameraGimbal.GimbalTransform
import CameraGimbal.RecentPhotos
import CameraGimbal.WebBase64
import CameraGimbal.Z1Sprop
import CameraGimbal.Utf8Clipping
