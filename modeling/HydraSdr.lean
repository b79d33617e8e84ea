import HydraSdr.Analysis.PollingWaiting
import HydraSdr.Analysis.SafeOff
import HydraSdr.Analysis.ClaimExclusion
import HydraSdr.Analysis.SettingsAgreement
import HydraSdr.Analysis.ReceiverAgreement
import HydraSdr.Analysis.LivePacking
import HydraSdr.Analysis.BufferPool
import HydraSdr.Analysis.ReadProgress
import HydraSdr.Analysis.DecimationChanges
import HydraSdr.Analysis.ConverterSafety
import HydraSdr.Analysis.SliceConversion
import HydraSdr.Analysis.RateSelection
import HydraSdr.Analysis.SerialParsing
import HydraSdr.Analysis.HalfBandStage
import HydraSdr.Analysis.DownConverter
import HydraSdr.Analysis.BlockDelivery
import HydraSdr.Analysis.StreamStatistics
import HydraSdr.Analysis.RestartFreshness
import HydraSdr.Analysis.SampleDelivery
import HydraSdr.Analysis.FirmwareAgreement
import HydraSdr.Analysis.IssuedTransfers
import HydraSdr.Analysis.SpuriousPolls
import HydraSdr.Analysis.Denotation
import HydraSdr.Analysis.DiscoveryAgreement
import HydraSdr.Analysis.OpeningProtocol
import HydraSdr.Analysis.InitializationProtocol
import HydraSdr.Analysis.ReadMechanisms
import HydraSdr.Analysis.StreamRecovery
import HydraSdr.Analysis.SessionRecovery
import HydraSdr.Analysis.ReceivedSignal
