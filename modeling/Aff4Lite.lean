import Aff4Lite.Lib.Bytes
import Aff4Lite.Lib.Loop
import Aff4Lite.Lib.Memory
import Aff4Lite.Lib.OrderedMap
import Aff4Lite.Lib.Strings
import Aff4Lite.Rdf.Lexicon
import Aff4Lite.Rdf.Model
import Aff4Lite.Stream.Interface
import Aff4Lite.Stream.MapStream
import Aff4Lite.Stream.MapStreamProperties
import Aff4Lite.Stream.MapStreamRead
import Aff4Lite.Stream.MapSegment
import Aff4Lite.XWays.Sparse
import Aff4Lite.XWays.SparseProperties
import Aff4Lite.Stream.MapStreamRecords
import Aff4Lite.Stream.MapStreamSplit
import Aff4Lite.Stream.MapStreamContract
import Aff4Lite.Zip.Structs
import Aff4Lite.Zip.Zip
import Aff4Lite.Zip.ZipProperties
import Aff4Lite.Zip.Archive
import Aff4Lite.Zip.Termination
import Aff4Lite.Zip.Shift
import Aff4Lite.Zip.Zip64
import Aff4Lite.Containers.ResourceID
import Aff4Lite.Containers.ResourceIDProperties
import Aff4Lite.Containers.ZipContainer
import Aff4Lite.Containers.ImageStreams
import Aff4Lite.Map.AFF4Map
import Aff4Lite.Resolver.LightResolver
import Aff4Lite.Stream.BevvyIndex
import Aff4Lite.Utils.Cache
import Aff4Lite.Stream.ImageStream
import Aff4Lite.Stream.ImageStreamProperties
import Aff4Lite.Stream.ImageStreamRead
import Aff4Lite.Stream.ChunkLoader
import Aff4Lite.Stream.Truncation
import Aff4Lite.Zip.EndRecord
import Aff4Lite.Zip.AllOrNothing
import Aff4Lite.Stream.MapStreamUnknown
import Aff4Lite.Stream.MapStreamGap
import Aff4Lite.Utils.CacheList
import Aff4Lite.Utils.CacheListProperties
import Aff4Lite.Stream.BevvySegment
import Aff4Lite.Resolver.LightResolverProperties
import Aff4Lite.Stream.ChunkLoaderProperties
import Aff4Lite.Stream.ChunkLoaderRead
import Aff4Lite.Containers.Descriptors
import Aff4Lite.Containers.DescriptorsProperties
import Aff4Lite.Stream.ImageStreamDevice
import Aff4Lite.Lib.Calendar
import Aff4Lite.Rdf.Time
import Aff4Lite.Rdf.TypedLiteral
import Aff4Lite.Containers.SegmentNames
import Aff4Lite.Stream.StreamVector
import Aff4Lite.Stream.InflatedSegment
import Aff4Lite.Stream.RepeatedImageStream
import Aff4Lite.Stream.ImageStreamCreate
import Aff4Lite.XWays.SparsePieces
import Aff4Lite.Codec.CompressionCodec
import Aff4Lite.Map.DeclaredSize
import Aff4Lite.Stream.ChunkLocation
import Aff4Lite.Containers.ResourceBounds
import Aff4Lite.Stream.ChunkReadLoop
import Aff4Lite.Stream.RecordLoading
import Aff4Lite.Map.DependentStreams
import Aff4Lite.Rdf.ModelProperties
import Aff4Lite.Map.Overrides
import Aff4Lite.Containers.ContainerObject
import Aff4Lite.Containers.AbsentModel
import Aff4Lite.Resolver.CreateResolver
import Aff4Lite.CApi.Aff4C
import Aff4Lite.CApi.Aff4CProperties
import Aff4Lite.Lib.Extent
import Aff4Lite.Lib.Transparent
import Aff4Lite.Lib.Blocks
import Aff4Lite.Stream.SymbolicImageStream
import Aff4Lite.Stream.StreamObject
import Aff4Lite.Stream.MapImage
import Aff4Lite.Tools.Copy
import Aff4Lite.Zip.Writer
import Aff4Lite.Stream.BevvyWriter
import Aff4Lite.Lib.Session
import Aff4Lite.XWays.Plugin
import Aff4Lite.XWays.SparseExtent
import Aff4Lite.XWays.PluginProperties
import Aff4Lite.Containers.Volume
import Aff4Lite.Containers.ConstructedStreams
import Aff4Lite.Containers.WrittenContainer
import Aff4Lite.Containers.Evidence
import Aff4Lite.Containers.Folder
import Aff4Lite.Containers.OuterStreams
import Aff4Lite.Containers.Striped
