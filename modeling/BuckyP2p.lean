import BuckyP2p.Directory.ElectionSafety
import BuckyP2p.Directory.Replication
import BuckyP2p.Sn.Publication
import BuckyP2p.Tunnel.Collisions
import BuckyP2p.Tunnel.OwnerBooks
import BuckyP2p.Tunnel.Heartbeats
import BuckyP2p.Tunnel.Custody
import BuckyP2p.Tcp.Reclaims
import BuckyP2p.Tcp.Ownership
import BuckyP2p.ControlStream.Write
import BuckyP2p.ControlStream.Closing
import BuckyP2p.Tcp.HalfClose
import BuckyP2p.ControlStream.HalfOpen
import BuckyP2p.Rendezvous.Leaders
import BuckyP2p.Pn.Relay
import BuckyP2p.Ttp.Exits
import BuckyP2p.Quic.WorkerSockets
import BuckyP2p.Quic.Listener
import BuckyP2p.Ttp.Runtime
import BuckyP2p.Tcp.Identity
import BuckyP2p.Quic.Agreement
import BuckyP2p.Pn.Routable
import BuckyP2p.Rendezvous.Bounds
import BuckyP2p.NatProbe.Bounds
import BuckyP2p.NatProbe.Newest
import BuckyP2p.Sn.CallDelivery
import BuckyP2p.Sn.Reported
import BuckyP2p.Tunnel.Selection
import BuckyP2p.Tunnel.Activity
import BuckyP2p.Tcp.ClaimReplay
import BuckyP2p.Tcp.Absorbing
import BuckyP2p.Directory.MergedLeases
import BuckyP2p.Directory.Store
import BuckyP2p.Directory.KnownLeader
import BuckyP2p.Tcp.ReverseOpen
import BuckyP2p.Pn.Traffic
import BuckyP2p.Pn.Heartbeat
import BuckyP2p.Pn.IdleCheck
import BuckyP2p.Net.Listen
import BuckyP2p.Net.Subscriptions
import BuckyP2p.Quic.Accepting
import BuckyP2p.Quic.ProbeWaiters
import BuckyP2p.Quic.PunchSchedule
import BuckyP2p.Sn.ProbeSafety
import BuckyP2p.Stream.Listeners
import BuckyP2p.Tcp.Numbers
import BuckyP2p.Tls.ServerNames
import BuckyP2p.Tls.CertResolver
import BuckyP2p.Tunnel.Traversal
import BuckyP2p.Net.TunnelIds
