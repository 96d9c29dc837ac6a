import Kurdistan.Security.ReplayRefinement
import Kurdistan.Handshake.Agreement
import Kurdistan.Compiler.Parity
import Kurdistan.Runtime.MessageLimit
import Kurdistan.Runtime.DuplexSafety
import Kurdistan.Runtime.BodyParity
import Kurdistan.Runtime.FlowInvariant
import Kurdistan.Runtime.PortInbound
import Kurdistan.Runtime.PumpFinal
import Kurdistan.Product.PlanAgreement
import Kurdistan.Framing.FragmentSets
import Kurdistan.Security.AdditionalData
import Kurdistan.Framing.LiveBounds
import Kurdistan.Framing.StreamReader
import Kurdistan.Product.ActivationMisuse
import Kurdistan.Runtime.SourceLimiter
import Kurdistan.Security.LegacyReplay
import Kurdistan.Security.SealFailure
import Kurdistan.Transport.Carrier
import Kurdistan.Selfhost.StoreAtomicity
