import VpnTunnel.Auth.Acceptance
import VpnTunnel.Auth.Agreement
import VpnTunnel.Auth.BothOrNeither
import VpnTunnel.Auth.KeyLeak
import VpnTunnel.Auth.KeySeparation
import VpnTunnel.Client.AtomicMethods
import VpnTunnel.Client.Progress
import VpnTunnel.Client.Refinement
import VpnTunnel.Client.SessionBinding
import VpnTunnel.Client.SocketLife
import VpnTunnel.Crypto.FrameImage
import VpnTunnel.Foundation.CutHead
import VpnTunnel.Legacy.OneToken
import VpnTunnel.Server.AccessControl
import VpnTunnel.Server.ConnectIsolation
import VpnTunnel.Server.IdleTimeout
import VpnTunnel.Server.IpIsolation
import VpnTunnel.Server.Mediation
import VpnTunnel.Server.RateCalls
import VpnTunnel.Server.RateService
import VpnTunnel.Server.ServeLoop
import VpnTunnel.Server.SocketCustody
import VpnTunnel.Tunnel.Authenticity
import VpnTunnel.Tunnel.ChannelProgress
import VpnTunnel.Tunnel.Downstream
import VpnTunnel.Tunnel.FailurePages
import VpnTunnel.Tunnel.HandedOnce
import VpnTunnel.Tunnel.HeaderFidelity
import VpnTunnel.Tunnel.LengthsOnly
import VpnTunnel.Tunnel.Replay
import VpnTunnel.Tunnel.ResponseFraming
import VpnTunnel.Tunnel.SessionCalls
