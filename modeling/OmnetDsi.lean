import OmnetDsi.Ipv4.DiscoveredRoutes
import OmnetDsi.Ipv4.FragmentBuffers
import OmnetDsi.Ipv4.DeletedInterfaces
import OmnetDsi.Arp.PacketLedger
import OmnetDsi.Ipv4.CountedPaths
import OmnetDsi.Ipv4.PacketDispatch
import OmnetDsi.Ipv4.DynamicSelection
import OmnetDsi.Ipv4.FailedLinks
import OmnetDsi.Ipv4.AllocatedSubscripts
import OmnetDsi.Tcp.MsgBasedQueues
import OmnetDsi.Tcp.SocketTable
import OmnetDsi.Ospf.IntraAreaTable
import OmnetDsi.Tcp.PendingRetransmission
import OmnetDsi.Tcp.InOrderClose
import OmnetDsi.Linklayer.AddressLearning
import OmnetDsi.Linklayer.TransmitTimers
import OmnetDsi.Linklayer.SentFrames
import OmnetDsi.Rtp.SequenceTracking
import OmnetDsi.Contract.IPv6Text
import OmnetDsi.Sctp.OrderedDelivery
import OmnetDsi.Sctp.SenderAccounting
import OmnetDsi.Ldp.FecLists
import OmnetDsi.Ldp.LabelAgreement
import OmnetDsi.Ted.LinkStateFlooding
import OmnetDsi.HeaderSerializers.DatagramRoundTrip
import OmnetDsi.HeaderSerializers.InternetChecksum
import OmnetDsi.HeaderSerializers.SCTPRoundTrip
import OmnetDsi.RsvpTe.BandwidthAccounting
import OmnetDsi.Ipv4.ServedMessages
import OmnetDsi.Ipv4.HostPairs
import OmnetDsi.Ipv4.HashRouting
import OmnetDsi.Ipv4.PacketAllotment
import OmnetDsi.Ipv6.NeighbourEffects
import OmnetDsi.Ipv6.UnreachabilityDetection
import OmnetDsi.Ipv6.DefaultRouters
import OmnetDsi.Ipv6.PrefixOptions
import OmnetDsi.Base.ReassembledRanges
import OmnetDsi.Base.RandomEarlyDetection
import OmnetDsi.Arp.UplinkAddresses
import OmnetDsi.Udp.PortTables
import OmnetDsi.Contract.IPv4Text
import OmnetDsi.Tcp.ExtractedBytes
import OmnetDsi.Tcp.SegmentRuns
import OmnetDsi.Ospf.Packetisation
import OmnetDsi.Ospf.RoutingTable
import OmnetDsi.Ospf.RouterLinks
import OmnetDsi.Ospf.DesignatedRouter
import OmnetDsi.Ospf.SummaryRefresh
import OmnetDsi.Sctp.GapBounds
import OmnetDsi.Sctp.GapRemoval
import OmnetDsi.Rtp.LossFraction
import OmnetDsi.Ipv4.MatrixAddresses
import OmnetDsi.Mpls.LabelSwitching
