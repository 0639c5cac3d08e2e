import LaptopCatalogue.Store.Catalogue
import LaptopCatalogue.Grpc.Server
import LaptopCatalogue.Daemon.Run
import LaptopCatalogue.Main
import LaptopCatalogue.Proofs.Store.History
import LaptopCatalogue.Proofs.Store.Enumeration
import LaptopCatalogue.Proofs.Stream.Delivery
import LaptopCatalogue.Proofs.Stream.Reading
import LaptopCatalogue.Proofs.Service.Calls
import LaptopCatalogue.Proofs.Service.Registry
import LaptopCatalogue.Proofs.Stream.Abandoned
import LaptopCatalogue.Proofs.Wire.Grammar
import LaptopCatalogue.Proofs.Wire.Acceptance
import LaptopCatalogue.Proofs.Wire.Concatenation
import LaptopCatalogue.Proofs.Wire.Sizes
import LaptopCatalogue.Proofs.Wire.Combining
import LaptopCatalogue.Proofs.Wire.RoundTrip
import LaptopCatalogue.Proofs.Wire.Growth
import LaptopCatalogue.Proofs.Wire.Merging
import LaptopCatalogue.Proofs.Wire.Padding
import LaptopCatalogue.Proofs.Wire.Commuting
import LaptopCatalogue.Proofs.Wire.Nesting
import LaptopCatalogue.Proofs.Service.StoreCalls
import LaptopCatalogue.Proofs.Laptop.Bounds
import LaptopCatalogue.Proofs.Id.Spelling
import LaptopCatalogue.Proofs.Id.Grammar
import LaptopCatalogue.Proofs.Id.Bits
import LaptopCatalogue.Proofs.Service.Answers
import LaptopCatalogue.Proofs.Service.Ids
import LaptopCatalogue.Proofs.Service.Audit
import LaptopCatalogue.Proofs.Stream.Log
import LaptopCatalogue.Proofs.Number.Order
import LaptopCatalogue.Proofs.Laptop.Loosening
import LaptopCatalogue.Proofs.Config.Buffers
import LaptopCatalogue.Proofs.Http.Origins
import LaptopCatalogue.Proofs.Laptop.MemorySizes
import LaptopCatalogue.Proofs.Service.Resolution
import LaptopCatalogue.Proofs.Http.ConfiguredOrigins
import LaptopCatalogue.Proofs.Grpc.Paths
import LaptopCatalogue.Proofs.Wire.VarintExactness
