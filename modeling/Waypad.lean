import Waypad.Lib.Trans
import Waypad.Lib.FirstMatch
import Waypad.Lib.Text
import Waypad.Lib.Lines
import Waypad.Lib.Base64
import Waypad.Lib.Utf8
import Waypad.Protocol
import Waypad.Protocol.Wire
import Waypad.State
import Waypad.Server.Pairing
import Waypad.Server.Host
import Waypad.Server.Revocation
import Waypad.Server.PairingCode
import Waypad.Server.Gate
import Waypad.Lib.BigEndian
import Waypad.Crypto.Channel
import Waypad.Crypto.Session
import Waypad.Crypto.LineLimit
import Waypad.Screen.AnnexB
import Waypad.Screen.AnnexBScan
import Waypad.Screen.AnnexBStream
import Waypad.Screen.AnnexBSplit
import Waypad.Screen.AnnexBChunks
import Waypad.Screen.Pump
import Waypad.Screen.Socket
import Waypad.Screen.StreamReader
import Waypad.Screen.Sessions
import Waypad.Lib.Replace
import Waypad.Screen.Registry
import Waypad.Screen.Keyframe
import Waypad.Screen.Rtp
import Waypad.Screen.Audio
import Waypad.Screen.AudioPlace
import Waypad.Screen.AudioTasks
import Waypad.Screen.AudioMute
import Waypad.Screen.AudioStop
import Waypad.Screen.AudioPump
import Waypad.Screen.Producer
import Waypad.Screen.JpegStream
import Waypad.Screen.JpegPump
import Waypad.Screen.ProducerStop
import Waypad.Screen.ProducerWire
import Waypad.Screen.Monitors
import Waypad.Screen.PortalSize
import Waypad.Lib.LastWrite
import Waypad.Input.Keymap
import Waypad.Input.Uinput
import Waypad.Input.Commands
import Waypad.Input.Gamepad
import Waypad.Input.Held
import Waypad.Input.Release
import Waypad.Input.KeyCalls
import Waypad.Input.ReleaseAll
import Waypad.Input.Caches
import Waypad.Input.PadDetach
import Waypad.Input.Scroll
import Waypad.Input.Shortcut
import Waypad.Lib.SlidingWindow
import Waypad.Server.RateLimit
import Waypad.Server.StreamAttach
import Waypad.Server.HandlePair
import Waypad.Server.Connection
import Waypad.Server.Requests
import Waypad.Capability
import Waypad.Input.Backends
import Waypad.Server.InputService
import Waypad.Server.PadRefresh
import Waypad.Screen.Negotiation
import Waypad.Screen.Promise
import Waypad.Screen.PromiseWire
import Waypad.Lib.Signals
import Waypad.Portal.Request
import Waypad.Portal.Answers
import Waypad.Portal.Clients
import Waypad.Screen.ProducerError
import Waypad.Screen.MonitorSource
import Waypad.Lib.Files
import Waypad.Server.StoreFile
import Waypad.Lib.Notify
import Waypad.Input.Pointer
import Waypad.Input.PointerWake
import Waypad.Input.PointerStale
import Waypad.Signal.Client
import Waypad.Signal.Reconnect
import Waypad.Signal.Backoff
import Waypad.Lib.Query
import Waypad.Lib.Round
import Waypad.Lib.Grouped
import Waypad.Cli.Invite
import Waypad.Cli.InviteCommand
import Waypad.Screen.Absolute
import Waypad.Crypto.Transcript
import Waypad.Server.DeviceStore
import Waypad.Screen.X11
import Waypad.Screen.Sources
import Waypad.Lib.Keyboard
import Waypad.Input.Typing
import Waypad.Input.HyprlandText
import Waypad.Lib.Abrupt
import Waypad.Lib.Binary64
import Waypad.Input.Setup
import Waypad.Input.Console
