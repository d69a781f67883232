import LibSbml.Xml.Attributes
import LibSbml.Xml.Namespaces
import LibSbml.Xml.ErrorLog
import LibSbml.Document.State
import LibSbml.Document.Packages
import LibSbml.Document.Copy
import LibSbml.Document.Operations
import LibSbml.Validation.Consistency
import LibSbml.Validation.Compatibility
import LibSbml.Spatial.UniqueSpatialIds
import LibSbml.Io.Read
import LibSbml.Io.Write
import LibSbml.Io.RoundTrip
import LibSbml.Io.RevisionCheck
import LibSbml.Document.Reachable
import LibSbml.Io.Children
import LibSbml.Document.PackageSlots
import LibSbml.Document.PackageLaws
import LibSbml.Document.Runs
