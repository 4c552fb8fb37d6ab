import Termbase.Vocabulary

/-! The vocabulary of music, whose namespace is a term of its own. -/

namespace Termbase.Vocabulary

def musicTable : List (String × String) := [
  ("ACTIVITY_CLASS", "Activity"), ("ACTIVITY", "activity"), ("ACTIVITY_END", "activity_end"),
  ("ACTIVITY_START", "activity_start"), ("ALBUM", "album"), ("AMAZON_ASIN", "amazon_asin"),
  ("ANALOG_SIGNAL", "AnalogSignal"), ("ARRANGED_IN", "arranged_in"),
  ("ARRANGEMENT", "Arrangement"), ("ARRANGEMENT_OF", "arrangement_of"), ("ARRANGER", "Arranger"),
  ("ARTIST", "artist"), ("AUDIOBOOK", "audiobook"), ("AUDIO_FILE", "AudioFile"),
  ("AVAILABLE_AS", "available_as"), ("DEPRECATED_AVAILABLE_AS", "availableAs"),
  ("BIOGRAPHY", "biography"), ("BITS_PER_SAMPLE", "bitsPerSample"), ("BOOTLEG", "bootleg"),
  ("BPM", "bpm"), ("CATALOGUE_NUMBER", "catalogue_number"), ("CD", "CD"),
  ("CHANNELS", "channels"), ("COLLABORATED_WITH", "collaborated_with"),
  ("COMPILATION", "compilation"), ("COMPILATION_OF", "compilation_of"), ("COMPILED", "compiled"),
  ("COMPILER", "compiler"), ("COMPOSED_IN", "composed_in"), ("COMPOSER_CLASS", "Composer"),
  ("COMPOSER", "composer"), ("COMPOSITION", "Composition"), ("CONDUCTED", "conducted"),
  ("CONDUCTOR_CLASS", "Conductor"), ("CONDUCTOR", "conductor"),
  ("CONTAINS_SAMPLE_FROM", "contains_sample_from"), ("CORPORATE_BODY", "CorporateBody"),
  ("DAT", "DAT"), ("DCC", "DCC"), ("DERIVED_FROM", "derived_from"),
  ("DIGITAL_SIGNAL", "DigitalSignal"), ("DISCOGRAPHY", "discography"), ("DISCOGS", "discogs"),
  ("DJMIX_OF", "djmix_of"), ("DJMIXED", "djmixed"), ("DJMIXED_BY", "djmixed_by"),
  ("DOWNLOAD", "download"), ("DURATION", "duration"), ("DVDA", "DVDA"), ("EAN", "ean"),
  ("ED_2_K", "ED2K"), ("ENCODES", "encodes"), ("ENCODING", "encoding"), ("ENGINEER", "engineer"),
  ("ENGINEERED", "engineered"), ("EP", "ep"), ("EVENT_HOMEPAGE", "event_homepage"),
  ("DEPRECATED_EVENT_HOME_PAGE", "eventHomePage"), ("EXCHANGE_ITEM", "exchange_item"),
  ("FANPAGE", "fanpage"), ("FESTIVAL", "Festival"), ("FREE_DOWNLOAD", "free_download"),
  ("DEPRECATED_FREEDOWNLOAD", "freedownload"), ("GENRE", "genre"), ("GENRE_CLASS", "Genre"),
  ("GRID", "grid"), ("GROUP", "group"), ("GTIN", "gtin"), ("HAS_TRACK", "has_track"),
  ("HEADLINER", "headliner"), ("HOMEPAGE", "homepage"), ("IMAGE", "image"), ("IMDB", "imdb"),
  ("INSTRUMENT", "instrument"), ("INSTRUMENT_CLASS", "Instrument"),
  ("INSTRUMENTATION", "Instrumentation"), ("INTERPRETER", "interpreter"),
  ("INTERVIEW", "interview"), ("IPI", "ipi"), ("ISMN", "ismn"), ("ISRC", "isrc"),
  ("ISWC", "iswc"), ("ITEM", "item"), ("KEY", "key"), ("LABEL_CLASS", "Label"),
  ("LABEL", "label"), ("LC", "lc"), ("LEVEL", "level"), ("LIBRETTO", "Libretto"),
  ("LICENCE", "licence"), ("LISTENED", "listened"), ("LISTENER", "listener"),
  ("LISTENER_CLASS", "Listener"), ("LIVE", "live"), ("LYRICS_CLASS", "Lyrics"),
  ("LYRICS", "lyrics"), ("MAGNETIC_TAPE", "MagneticTape"), ("MAILORDER", "mailorder"),
  ("MASHUP_OF", "mashup_of"), ("MD", "MD"), ("MEDIA_TYPE", "media_type"), ("MEDIUM", "Medium"),
  ("MEDLEY_OF", "medley_of"), ("MEMBER", "member"), ("MEMBER_OF", "member_of"),
  ("MEMBERSHIP_CLASS", "Membership"), ("MEMBERSHIP", "membership"), ("METER", "meter"),
  ("MOVEMENT_CLASS", "Movement"), ("MOVEMENT", "movement"),
  ("MOVEMENT_NUMBER", "movement_number"), ("DEPRECATED_MOVEMENT_NUM", "movementNum"),
  ("MUSICAL_EXPRESSION", "MusicalExpression"), ("MUSICAL_ITEM", "MusicalItem"),
  ("MUSICAL_MANIFESTATION", "MusicalManifestation"), ("MUSICAL_WORK", "MusicalWork"),
  ("MUSIC_ARTIST", "MusicArtist"), ("MUSICBRAINZ", "musicbrainz"),
  ("MUSICBRAINZ_GUID", "musicbrainz_guid"), ("MUSIC_GROUP", "MusicGroup"),
  ("MUSICMOZ", "musicmoz"), ("MYSPACE", "myspace"), ("OFFICIAL", "official"), ("OLGA", "olga"),
  ("ONLINECOMMUNITY", "onlinecommunity"), ("OPUS", "opus"), ("ORCHESTRATION", "Orchestration"),
  ("ORIGIN", "origin"), ("OTHER_RELEASE_OF", "other_release_of"),
  ("PAID_DOWNLOAD", "paid_download"), ("DEPRECATED_PAIDDOWNLOAD", "paiddownload"),
  ("PERFORMANCE", "Performance"), ("PERFORMANCE_OF", "performance_of"),
  ("PERFORMED", "performed"), ("PERFORMED_IN", "performed_in"), ("PERFORMER", "performer"),
  ("PERFORMER_CLASS", "Performer"), ("POSSESS_ITEM", "possess_item"), ("PREVIEW", "preview"),
  ("PREVIEW_DOWNLOAD", "preview_download"), ("PRIMARY_INSTRUMENT", "primary_instrument"),
  ("PRODUCED", "produced"), ("PRODUCED_SCORE", "produced_score"),
  ("PRODUCED_SIGNAL", "produced_signal"), ("PRODUCED_SIGNAL_GROUP", "produced_signal_group"),
  ("PRODUCED_SOUND", "produced_sound"), ("PRODUCED_WORK", "produced_work"),
  ("PRODUCER", "producer"), ("DEPRECATED_PRODUCES_SIGNAL", "producesSignal"),
  ("DEPRECATED_PRODUCES_SOUND", "producesSound"), ("DEPRECATED_PRODUCES_WORK", "producesWork"),
  ("DEPRECATED_PRODUCT_OF_COMPOSITION", "productOfComposition"), ("PROMOTION", "promotion"),
  ("PUBLICATION_OF", "publication_of"), ("DEPRECATED_PUBLICATION_OF", "publicationOf"),
  ("PUBLISHED", "published"), ("PUBLISHED_AS", "published_as"),
  ("DEPRECATED_PUBLISHED_AS", "publishedAs"), ("PUBLISHED_LIBRETTO", "PublishedLibretto"),
  ("PUBLISHED_LYRICS", "PublishedLyrics"), ("PUBLISHED_SCORE", "PublishedScore"),
  ("PUBLISHER", "publisher"), ("PUBLISHING_LOCATION", "publishing_location"),
  ("DEPRECATED_PUBLISHING_LOCATION", "publishingLocation"), ("PUID", "puid"),
  ("RECORD", "record"), ("RECORD_CLASS", "Record"), ("RECORD_COUNT", "record_count"),
  ("RECORD_NUMBER", "record_number"), ("RECORD_SIDE", "record_side"),
  ("RECORDED_AS", "recorded_as"), ("RECORDED_IN", "recorded_in"),
  ("DEPRECATED_RECORDED_AS", "recordedAs"), ("RECORDING", "Recording"),
  ("RECORDING_OF", "recording_of"), ("RECORDING_SESSION", "RecordingSession"),
  ("RECORDS", "records"), ("RELEASE", "release"), ("RELEASE_CLASS", "Release"),
  ("RELEASE_STATUS", "release_status"), ("RELEASE_TYPE", "release_type"),
  ("RELEASE_EVENT", "ReleaseEvent"), ("DEPRECATED_RELEASE_STATUS", "releaseStatus"),
  ("RELEASE_STATUS_CLASS", "ReleaseStatus"), ("DEPRECATED_RELEASE_TYPE", "releaseType"),
  ("RELEASE_TYPE_CLASS", "ReleaseType"), ("REMASTER_OF", "remaster_of"), ("REMIX", "remix"),
  ("REMIX_OF", "remix_of"), ("REMIXED", "remixed"), ("REMIXER", "remixer"), ("REVIEW", "review"),
  ("SACD", "SACD"), ("SAMPLE_RATE", "sample_rate"), ("SAMPLED", "sampled"),
  ("SAMPLED_VERSION", "sampled_version"), ("SAMPLED_VERSION_OF", "sampled_version_of"),
  ("DEPRECATED_SAMPLED_VERSION_OF", "sampledVersionOf"), ("SAMPLER", "sampler"),
  ("DEPRECATED_SAMPLE_RATE", "sampleRate"), ("SCORE", "Score"), ("SELL_ITEM", "sell_item"),
  ("SHOW", "Show"), ("SIGNAL", "signal"), ("SIGNAL_CLASS", "Signal"),
  ("SIGNAL_GROUP", "SignalGroup"), ("DEPRECATED_SIGNAL_TIME", "signalTime"),
  ("SIMILAR_TO", "similar_to"), ("SINGER", "singer"), ("SINGLE", "single"),
  ("SOLO_MUSIC_ARTIST", "SoloMusicArtist"), ("SOUND", "Sound"),
  ("SOUND_ENGINEER", "SoundEngineer"), ("SOUNDTRACK", "soundtrack"), ("SPOKENWORD", "spokenword"),
  ("STREAM", "Stream"), ("SUPPORTING_MUSICIAN", "supporting_musician"), ("TEMPO", "tempo"),
  ("TEXT", "text"), ("TIME", "time"), ("TORRENT", "Torrent"), ("TRACK", "track"),
  ("TRACK_CLASS", "Track"), ("TRACK_COUNT", "track_count"), ("TRACK_NUMBER", "track_number"),
  ("DEPRECATED_TRACK_NUM", "trackNum"), ("TRANSCRIPTION", "Transcription"),
  ("TRANSLATION_OF", "translation_of"), ("TRIBUTE_TO", "tribute_to"), ("TRMID", "trmid"),
  ("UPC", "upc"), ("DEPRECATED_USED_IN_PERFORMANCE", "usedInPerformance"),
  ("DEPRECATED_USED_IN_RECORDING", "usedInRecording"), ("DEPRECATED_USES_SOUND", "usesSound"),
  ("DEPRECATED_USES_WORK", "usesWork"), ("UUID", "uuid"), ("VINYL", "Vinyl"),
  ("WANT_ITEM", "want_item"), ("WIKIPEDIA", "wikipedia")]

def music : Vocabulary where
  title := "The Music Ontology".toList
  namespaceIri := "http://purl.org/ontology/mo/".toList
  label := "mo".toList
  listsNamespace := true
  named := namedTerms musicTable

end Termbase.Vocabulary
