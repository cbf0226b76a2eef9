import SimpleSshd.Lib.Runs
import SimpleSshd.Lib.Fallible
import SimpleSshd.Lib.Framing
import SimpleSshd.Lib.History
import SimpleSshd.Lib.LinkedList
import SimpleSshd.Service.Service
import SimpleSshd.Service.Proofs.StepsProofs
import SimpleSshd.Service.Proofs.OwnershipProofs
import SimpleSshd.Service.Proofs.StopProofs
import SimpleSshd.Service.Proofs.KillProofs
import SimpleSshd.HostKey.HostKey
import SimpleSshd.HostKey.Proofs.HostKeyProofs
import SimpleSshd.BufferSu.BufferSu
import SimpleSshd.Dropbear.Buffer
import SimpleSshd.Dropbear.SignKey
import SimpleSshd.Dropbear.AuthKeys
import SimpleSshd.Dropbear.Session
import SimpleSshd.Dropbear.Auth
import SimpleSshd.Dropbear.Kex
import SimpleSshd.Dropbear.ProcessPacket
import SimpleSshd.Dropbear.Proofs.BufferProofs
import SimpleSshd.Dropbear.Proofs.SignKeyProofs
import SimpleSshd.Dropbear.Proofs.AuthKeysProofs
import SimpleSshd.Dropbear.Proofs.SessionProofs
import SimpleSshd.Dropbear.Proofs.AuthProofs
import SimpleSshd.Dropbear.Proofs.AuthSafetyProofs
import SimpleSshd.Dropbear.Proofs.AccountProofs
import SimpleSshd.Dropbear.Proofs.PubkeyProofs
import SimpleSshd.Dropbear.Proofs.KexProofs
import SimpleSshd.Dropbear.Proofs.GatingProofs
import SimpleSshd.Dropbear.Proofs.SessionAuthProofs
import SimpleSshd.BufferSu.Proofs.QueueProofs
import SimpleSshd.BufferSu.Proofs.RelayProofs
import SimpleSshd.BufferSu.Proofs.ExitProofs
import SimpleSshd.BufferSu.Proofs.PollingProofs
import SimpleSshd.Dropbear.Packet
import SimpleSshd.Dropbear.Proofs.BufferBoundsProofs
import SimpleSshd.Dropbear.Proofs.PacketProofs
import SimpleSshd.Dropbear.Proofs.DecompressProofs
import SimpleSshd.Dropbear.Inbound
import SimpleSshd.Dropbear.Proofs.ReceiveProofs
import SimpleSshd.Dropbear.Proofs.SendProofs
import SimpleSshd.Lib.BlockMode
import SimpleSshd.Dropbear.Link
import SimpleSshd.Dropbear.Proofs.LinkProofs
import SimpleSshd.Dropbear.Proofs.ActsProofs
import SimpleSshd.Dropbear.Proofs.OutboundProofs
import SimpleSshd.Dropbear.Proofs.CompressionProofs
import SimpleSshd.Dropbear.CircBuffer
import SimpleSshd.Dropbear.Proofs.CircBufferProofs
import SimpleSshd.Dropbear.Channel
import SimpleSshd.Dropbear.ChanSession
import SimpleSshd.Dropbear.ChannelRun
import SimpleSshd.Dropbear.Proofs.ChannelActsProofs
import SimpleSshd.Dropbear.Proofs.ChannelEventsProofs
import SimpleSshd.Dropbear.Proofs.WindowProofs
import SimpleSshd.Dropbear.Proofs.StreamProofs
import SimpleSshd.Dropbear.Proofs.TransmitProofs
import SimpleSshd.Dropbear.Proofs.CommandProofs
import SimpleSshd.Dropbear.Proofs.CloseProofs
import SimpleSshd.Dropbear.Proofs.HalfCloseProofs
import SimpleSshd.Dropbear.Proofs.KeyOptionsProofs
import SimpleSshd.Dropbear.Server
import SimpleSshd.Dropbear.Proofs.ServerProofs
import SimpleSshd.Dropbear.Proofs.ForcedProofs
import SimpleSshd.Dropbear.Proofs.ChildrenProofs
import SimpleSshd.Dropbear.Proofs.TableProofs
import SimpleSshd.Dropbear.ExecRun
import SimpleSshd.Dropbear.Proofs.OutputProofs
import SimpleSshd.Dropbear.Proofs.PasswordProofs
import SimpleSshd.Dropbear.KeyLine
import SimpleSshd.Dropbear.Proofs.Base64Proofs
import SimpleSshd.Dropbear.Proofs.OptionsProofs
import SimpleSshd.Dropbear.Proofs.KeyLineProofs
import SimpleSshd.Dropbear.Proofs.QuotingProofs
import SimpleSshd.Dropbear.Main
import SimpleSshd.Dropbear.Proofs.MainProofs
import SimpleSshd.Dropbear.TcpFwd
import SimpleSshd.Dropbear.Proofs.TcpFwdProofs
import SimpleSshd.Dropbear.Netio
import SimpleSshd.Dropbear.Proofs.ConnectProofs
import SimpleSshd.Dropbear.Proofs.TransparencyProofs
import SimpleSshd.Dropbear.Proofs.NegotiationProofs
import SimpleSshd.Dropbear.Proofs.TimeoutProofs
import SimpleSshd.Jni.Interface
import SimpleSshd.Jni.Proofs.SplitCmdProofs
import SimpleSshd.Dropbear.Environment
import SimpleSshd.Dropbear.Proofs.EnvironmentProofs
import SimpleSshd.Service.Proofs.RestartProofs
import SimpleSshd.Service.LogView
import SimpleSshd.Service.Proofs.LogViewProofs
import SimpleSshd.Dropbear.Proofs.ListenerProofs
import SimpleSshd.Dropbear.RawBuffer
import SimpleSshd.Lib.Word
import SimpleSshd.Dropbear.Proofs.RawBufferProofs
import SimpleSshd.Dropbear.Proofs.FifoProofs
import SimpleSshd.Dropbear.Proofs.MpintProofs
import SimpleSshd.Lib.Modular
import SimpleSshd.Dropbear.PrivKey
import SimpleSshd.Dropbear.Sign
import SimpleSshd.Dropbear.KexArith
import SimpleSshd.Dropbear.Proofs.PrivKeyProofs
import SimpleSshd.Dropbear.Proofs.ReadingProofs
import SimpleSshd.Dropbear.Proofs.SignProofs
import SimpleSshd.Dropbear.Proofs.KexArithProofs
import SimpleSshd.Rsync.Delta
import SimpleSshd.Rsync.Proofs.DeltaProofs
